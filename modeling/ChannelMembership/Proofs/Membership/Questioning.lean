import ChannelMembership.Proofs.Membership.Evaluation

/-!
# Which questions an evaluation puts

In whatever order the answers come in, an evaluation puts the questions of one authorisation: in the
lane of each channel its guards are asked up to the first that does not grant it.
-/

namespace ChannelMembership

/-- The question that was put. -/
def Consultation.question (consultation : Consultation) : Guard × Channel :=
  (consultation.guard, consultation.channel)

/-- The questions put while a principal is authorised once. -/
def Directory.questions (directory : Directory) (principal : Principal) : List (Guard × Channel) :=
  (directory.consultations principal).map Consultation.question

/-- The consultations that are still to come about a channel. -/
def Progress.ahead (principal : Principal) (channel : Channel) : Progress → List Consultation
  | asking guard rest => consult principal channel (guard :: rest)
  | decided _ => []

theorem Progress.ahead_start (principal : Principal) (channel : Channel) (guards : List Guard) :
    (start guards).ahead principal channel = consult principal channel guards := by
  cases guards <;> rfl

/-- An answer is one consultation less. -/
theorem Progress.ahead_answer (principal : Principal) (channel : Channel) {progress : Progress}
    {guard : Guard} (asked : progress.asked? = some guard) :
    progress.ahead principal channel =
      ⟨guard, channel, guard.decide principal channel⟩ ::
        (progress.answer (guard.decide principal channel).grants).ahead principal channel := by
  cases progress with
  | decided granted => cases asked
  | asking other rest =>
      cases asked
      cases granted : (guard.decide principal channel).grants with
      | true =>
          have next : (asking guard rest).answer true = start rest := rfl
          rw [next, ahead_start]
          simp [ahead, consult, granted]
      | false => simp [ahead, consult, answer, granted]

theorem Progress.isSome_decision?_iff {progress : Progress} :
    progress.decision?.isSome = true ↔ progress.asked? = none := by
  cases progress <;> simp [decision?, asked?]

theorem Progress.ahead_of_asked?_eq_none (principal : Principal) (channel : Channel)
    {progress : Progress} (silent : progress.asked? = none) :
    progress.ahead principal channel = [] := by
  cases progress with
  | asking guard rest => cases silent
  | decided granted => rfl

/-- The consultations that are still to come in a lane. -/
def Lane.ahead (principal : Principal) (lane : Lane) : List Consultation :=
  lane.progress.ahead principal lane.channel

namespace Evaluation

/-- The questions that are still to be put. -/
def ahead (evaluation : Evaluation) : List (Guard × Channel) :=
  evaluation.lanes.flatMap fun lane =>
    (lane.progress.ahead evaluation.principal lane.channel).map Consultation.question

/-- The consultations that are still to come. -/
def outstanding (evaluation : Evaluation) : List Consultation :=
  evaluation.lanes.flatMap (Lane.ahead evaluation.principal)

theorem ahead_eq_map (evaluation : Evaluation) :
    evaluation.ahead = evaluation.outstanding.map Consultation.question :=
  List.map_flatMap.symm

variable {directory : Directory} {principal : Principal} {evaluation : Evaluation}

theorem outstanding_start (directory : Directory) (principal : Principal) :
    (start directory principal).outstanding = directory.consultations principal := by
  simp [outstanding, start, List.flatMap_map, Lane.ahead, Progress.ahead_start,
    Directory.consultations]

theorem ahead_start (directory : Directory) (principal : Principal) :
    (start directory principal).ahead = directory.questions principal := by
  rw [ahead_eq_map, outstanding_start, Directory.questions]

theorem outstanding_of_isDone (done : evaluation.isDone = true) : evaluation.outstanding = [] := by
  refine List.flatMap_eq_nil_iff.2 fun lane member => ?_
  exact Progress.ahead_of_asked?_eq_none _ _
    (Progress.isSome_decision?_iff.1 (List.all_eq_true.1 done lane member))

theorem ahead_of_isDone (done : evaluation.isDone = true) : evaluation.ahead = [] := by
  rw [ahead_eq_map, outstanding_of_isDone done, List.map_nil]

/-- The guard of a lane is the one being asked about its channel, and its answer moves this lane on
and no other. -/
theorem Faithful.lanes_ask (faithful : evaluation.Faithful directory principal)
    {former later : List Lane} {lane : Lane} {guard : Guard}
    (split : evaluation.lanes = former ++ lane :: later)
    (asked : lane.progress.asked? = some guard) :
    evaluation.asked? lane.channel = some guard ∧
      (evaluation.ask lane.channel).lanes = former ++
        ⟨lane.channel, lane.progress.answer (guard.decide evaluation.principal lane.channel).grants⟩
          :: later := by
  have distinct : (evaluation.lanes.map Lane.channel).Nodup := by
    rw [faithful.channels_eq]
    exact directory.nodup_channels
  rw [split, List.map_append, List.map_cons, List.nodup_middle, List.nodup_cons] at distinct
  have apart : ∀ other ∈ former ++ later, other.channel ≠ lane.channel := by
    intro other member same
    refine distinct.1 ?_
    rw [← same, ← List.map_append]
    exact List.mem_map_of_mem member
  have found : evaluation.lanes.find? (fun other => other.channel = lane.channel) = some lane := by
    rw [split]
    refine List.find?_eq_some_iff_append.2 ⟨by simp, former, later, rfl, fun other member => ?_⟩
    simpa using apart other (List.mem_append_left _ member)
  have asked : evaluation.asked? lane.channel = some guard := by simp [asked?, found, asked]
  have stays (lanes : List Lane) (others : ∀ other ∈ lanes, other.channel ≠ lane.channel)
      (granted : Bool) :
      lanes.map (fun other => if other.channel = lane.channel then
        { other with progress := other.progress.answer granted } else other) = lanes := by
    refine (List.map_congr_left fun other member => ?_).trans (List.map_id lanes)
    simp [others other member]
  have former_stays := stays former fun other member => apart other (List.mem_append_left _ member)
  have later_stays := stays later fun other member => apart other (List.mem_append_right _ member)
  refine ⟨asked, ?_⟩
  simp only [Evaluation.ask, asked, answer, split, List.map_append, List.map_cons, former_stays,
    later_stays, if_true]

/-- The answer to a question takes one consultation out of those that are still to come: the first
one in its lane. -/
theorem Faithful.outstanding_ask (faithful : evaluation.Faithful directory principal)
    {former later : List Lane} {lane : Lane} {guard : Guard}
    (split : evaluation.lanes = former ++ lane :: later)
    (asked : lane.progress.asked? = some guard) :
    ∃ after, evaluation.outstanding =
        former.flatMap (Lane.ahead evaluation.principal) ++
          ⟨guard, lane.channel, guard.decide evaluation.principal lane.channel⟩ :: after ∧
      (evaluation.ask lane.channel).outstanding =
        former.flatMap (Lane.ahead evaluation.principal) ++ after := by
  obtain ⟨asking, lanes⟩ := faithful.lanes_ask split asked
  have principal_eq : (evaluation.ask lane.channel).principal = evaluation.principal := by
    simp [Evaluation.ask, asking, answer]
  have one_less := Progress.ahead_answer evaluation.principal lane.channel asked
  refine ⟨Lane.ahead evaluation.principal ⟨lane.channel, lane.progress.answer
    (guard.decide evaluation.principal lane.channel).grants⟩ ++
      later.flatMap (Lane.ahead evaluation.principal), ?_, ?_⟩
  · rw [outstanding, split, List.flatMap_append, List.flatMap_cons, Lane.ahead, one_less]
    rfl
  · rw [outstanding, lanes, principal_eq, List.flatMap_append, List.flatMap_cons]

/-- The answer to a question leaves the others to be put. -/
theorem Faithful.ahead_ask (faithful : evaluation.Faithful directory principal) {channel : Channel}
    {guard : Guard} (asked : evaluation.asked? channel = some guard) :
    evaluation.ahead.Perm ((guard, channel) :: (evaluation.ask channel).ahead) := by
  obtain ⟨found, search, progress⟩ := Option.bind_eq_some_iff.1 asked
  obtain ⟨here, former, later, split, -⟩ := List.find?_eq_some_iff_append.1 search
  obtain rfl : found.channel = channel := of_decide_eq_true here
  obtain ⟨after, outstanding_eq, outstanding_ask_eq⟩ := faithful.outstanding_ask split progress
  rw [ahead_eq_map, ahead_eq_map, outstanding_eq, outstanding_ask_eq, List.map_append,
    List.map_append, List.map_cons]
  exact List.perm_middle

/-- No guard is asked about a channel that is decided. -/
theorem ask_of_asked?_eq_none {channel : Channel} (silent : evaluation.asked? channel = none) :
    evaluation.ask channel = evaluation := by
  simp [ask, silent]

end Evaluation
end ChannelMembership
