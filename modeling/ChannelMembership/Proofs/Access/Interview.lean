import Mathlib.Data.List.TakeWhile
import ChannelMembership.Proofs.Access.Authorization
import ChannelMembership.Proofs.Access.Declarations
import ChannelMembership.Proofs.Membership.Questioning

/-!
# Who is asked, and in which order

When guards answer at once, an authorisation has nothing to wait for.  It stays with the first
channel until that is decided and goes on to the next, so the consultations of a whole course can be
written down beforehand: channel by channel in name order, the guards that declare the channel in
the order of registration, up to and including the first that does not say yes.
-/

namespace ChannelMembership

/-- The guards that are asked, of those that could be: as long as they grant the channel, and the
first that does not. -/
def upToRefusal (principal : Principal) (channel : Channel) (guards : List Guard) : List Guard :=
  let grants := fun guard : Guard => (guard.decide principal channel).grants
  guards.takeWhile grants ++ (guards.dropWhile grants).take 1

theorem upToRefusal_isPrefix (principal : Principal) (channel : Channel) (guards : List Guard) :
    upToRefusal principal channel guards <+: guards := by
  have front := List.take_prefix 1
    (guards.dropWhile fun guard => (guard.decide principal channel).grants)
  rw [← List.prefix_append_right_inj, List.takeWhile_append_dropWhile] at front
  exact front

theorem upToRefusal_eq_self {principal : Principal} {channel : Channel} {guards : List Guard}
    (granted : ∀ guard ∈ guards, (guard.decide principal channel).grants = true) :
    upToRefusal principal channel guards = guards := by
  rw [upToRefusal, List.takeWhile_eq_self_iff.2 granted, List.dropWhile_eq_nil_iff.2 granted]
  exact List.append_nil guards

/-- Asking guards in turn puts the questions up to the first refusal. -/
theorem consult_eq_map (principal : Principal) (channel : Channel) (guards : List Guard) :
    consult principal channel guards =
      (upToRefusal principal channel guards).map fun guard =>
        ⟨guard, channel, guard.decide principal channel⟩ := by
  induction guards with
  | nil => rfl
  | cons guard rest ih =>
      cases granted : (guard.decide principal channel).grants with
      | false => simp [consult, upToRefusal, granted]
      | true => simpa [consult, upToRefusal, granted] using ih

theorem guards_consult (principal : Principal) (channel : Channel) (guards : List Guard) :
    (consult principal channel guards).map Consultation.guard =
      upToRefusal principal channel guards := by
  simp [consult_eq_map, Function.comp_def]

namespace Evaluation

/-- The course of an evaluation whose answers come at once, with the consultations on the way and
its end.  As nothing has to wait, the questioning stays with the first channel that is not
decided. -/
inductive Course : Evaluation → List Consultation → Evaluation → Prop where
  /-- Every channel is decided. -/
  | ended {evaluation : Evaluation} (done : evaluation.isDone = true) :
      Course evaluation [] evaluation
  /-- The guard that is being asked about the first undecided channel answers. -/
  | ask {evaluation final : Evaluation} {channel : Channel} {guard : Guard}
      {consultations : List Consultation}
      (first : evaluation.undecided.head? = some channel)
      (asked : evaluation.asked? channel = some guard)
      (rest : Course (evaluation.ask channel) consultations final) :
      Course evaluation
        (⟨guard, channel, guard.decide evaluation.principal channel⟩ :: consultations) final

variable {directory : Directory} {principal : Principal} {evaluation final : Evaluation}
  {consultations : List Consultation}

/-- A step of the course: the consultation that comes next is the first of those still to come. -/
theorem Faithful.outstanding_of_first (faithful : evaluation.Faithful directory principal)
    {channel : Channel} (first : evaluation.undecided.head? = some channel) :
    ∃ guard, evaluation.asked? channel = some guard ∧
      evaluation.outstanding = ⟨guard, channel, guard.decide evaluation.principal channel⟩ ::
        (evaluation.ask channel).outstanding := by
  rw [undecided, List.head?_map, List.head?_filter] at first
  obtain ⟨lane, search, rfl⟩ := Option.map_eq_some_iff.1 first
  obtain ⟨open_lane, former, later, split, decided⟩ := List.find?_eq_some_iff_append.1 search
  obtain ⟨guard, asked⟩ := Option.isSome_iff_exists.1 open_lane
  obtain ⟨after, outstanding_eq, outstanding_ask_eq⟩ := faithful.outstanding_ask split asked
  have nothing : former.flatMap (Lane.ahead evaluation.principal) = [] := by
    refine List.flatMap_eq_nil_iff.2 fun other member => ?_
    exact Progress.ahead_of_asked?_eq_none _ _ (by simpa using decided other member)
  rw [nothing, List.nil_append] at outstanding_eq outstanding_ask_eq
  refine ⟨guard, (faithful.lanes_ask split asked).1, ?_⟩
  rw [outstanding_eq, outstanding_ask_eq]

/-- Where no channel is undecided, all are decided. -/
theorem isDone_of_undecided (none : evaluation.undecided.head? = none) :
    evaluation.isDone = true := by
  have silent : evaluation.lanes.filter (fun lane => lane.progress.asked?.isSome) = [] :=
    List.map_eq_nil_iff.1 (List.head?_eq_none_iff.1 none)
  refine List.all_eq_true.2 fun lane member => Progress.isSome_decision?_iff.2 ?_
  simpa using List.filter_eq_nil_iff.1 silent lane member

/-- Every course comes to an end, after the consultations that were to come. -/
theorem Faithful.exists_course (faithful : evaluation.Faithful directory principal) :
    ∃ final, Course evaluation evaluation.outstanding final := by
  generalize ahead : evaluation.outstanding = consultations
  induction consultations generalizing evaluation with
  | nil =>
      cases first : evaluation.undecided.head? with
      | none => exact ⟨evaluation, .ended (isDone_of_undecided first)⟩
      | some channel =>
          obtain ⟨guard, -, next⟩ := faithful.outstanding_of_first first
          rw [ahead] at next
          cases next
  | cons consultation rest ih =>
      cases first : evaluation.undecided.head? with
      | none =>
          rw [outstanding_of_isDone (isDone_of_undecided first)] at ahead
          cases ahead
      | some channel =>
          obtain ⟨guard, asked, next⟩ := faithful.outstanding_of_first first
          rw [ahead] at next
          obtain ⟨rfl, rest_eq⟩ := List.cons.inj next
          obtain ⟨final, course⟩ := ih (faithful.ask channel) rest_eq.symm
          exact ⟨final, .ask first asked course⟩

/-- Whatever course an evaluation takes, its consultations are those that were to come, and in the
end every channel is decided. -/
theorem Course.outcome (course : Course evaluation consultations final)
    (faithful : evaluation.Faithful directory principal) :
    consultations = evaluation.outstanding ∧ final.partition = directory.authorize principal := by
  induction course with
  | ended done => exact ⟨(outstanding_of_isDone done).symm, faithful.partition_eq done⟩
  | ask first asked rest ih =>
      obtain ⟨rest_eq, partition_eq⟩ := ih (faithful.ask _)
      obtain ⟨guard, asked', next⟩ := faithful.outstanding_of_first first
      cases asked.symm.trans asked'
      rw [next, rest_eq]
      exact ⟨rfl, partition_eq⟩

end Evaluation

namespace Directory

private theorem flatMap_of_nodup {α β : Type} [DecidableEq α] {items : List α}
    (nodup : items.Nodup) (a : α) (image : List β) :
    (items.flatMap fun b => if b = a then image else []) = if a ∈ items then image else [] := by
  induction items with
  | nil => rfl
  | cons b rest ih =>
      obtain ⟨absent, nodup_rest⟩ := List.nodup_cons.1 nodup
      rw [List.flatMap_cons, ih nodup_rest]
      by_cases same : b = a
      · subst same
        simp [absent]
      · simp [same, Ne.symm same]

/-- Of the consultations of an authorisation, those about one channel. -/
theorem filter_consultations (directory : Directory) (principal : Principal) (channel : Channel) :
    ((directory.consultations principal).filter fun consultation =>
        consultation.channel = channel) =
      consult principal channel (directory.guardsFor channel) := by
  have about (other : Channel) : (consult principal other (directory.guardsFor other)).filter
      (fun consultation => consultation.channel = channel) =
        if other = channel then consult principal channel (directory.guardsFor channel) else [] := by
    rw [consult_eq_map, List.filter_map]
    by_cases same : other = channel
    · subst same
      simp [Function.comp_def, consult_eq_map]
    · simp [Function.comp_def, same]
  simp only [consultations, List.filter_flatMap, about]
  rw [flatMap_of_nodup directory.nodup_channels]
  split
  · rfl
  · rename_i unknown
    rw [mem_channels, directory.inverts.governs_iff_ne_nil, ne_eq, not_not] at unknown
    rw [unknown]
    rfl

theorem guards_filter_consultations (directory : Directory) (principal : Principal)
    (channel : Channel) :
    (((directory.consultations principal).filter fun consultation =>
        consultation.channel = channel).map Consultation.guard) =
      upToRefusal principal channel
        (directory.guards.filter fun guard => channel ∈ guard.channels) := by
  rw [filter_consultations, guards_consult, guardsFor_eq_filter]

/-- The consultations of an authorisation, in full. -/
structure Interviews (directory : Directory) (principal : Principal)
    (consultations : List Consultation) : Prop where
  /-- Channel after channel in name order, the guards that declare it are asked in the order of
  registration, up to and including the first that does not say yes. -/
  inTurn : consultations = directory.channels.flatMap fun channel =>
    (upToRefusal principal channel
      (directory.guards.filter fun guard => channel ∈ guard.channels)).map fun guard =>
        ⟨guard, channel, guard.decide principal channel⟩
  /-- Nobody is asked about a channel that they do not declare. -/
  declared : ∀ consultation ∈ consultations,
    consultation.guard ∈ directory.guards ∧ consultation.channel ∈ consultation.guard.channels
  /-- About one channel, every registration is asked at most once. -/
  once : ∀ channel,
    ((consultations.filter fun consultation => consultation.channel = channel).map
      Consultation.guard).Sublist directory.guards
  /-- About an authorised channel, all that declare it have been asked. -/
  complete : ∀ channel ∈ (directory.authorize principal).authorized,
    (consultations.filter fun consultation => consultation.channel = channel).map
      Consultation.guard = directory.guards.filter fun guard => channel ∈ guard.channels

theorem interviews_consultations (directory : Directory) (principal : Principal) :
    directory.Interviews principal (directory.consultations principal) where
  inTurn := by simp only [consultations, consult_eq_map, guardsFor_eq_filter]
  declared := by
    intro consultation member
    obtain ⟨channel, -, member⟩ := List.mem_flatMap.1 member
    rw [consult_eq_map, guardsFor_eq_filter] at member
    obtain ⟨guard, asked, rfl⟩ := List.mem_map.1 member
    obtain ⟨registered, declares⟩ :=
      List.mem_filter.1 ((upToRefusal_isPrefix principal channel _).subset asked)
    exact ⟨registered, of_decide_eq_true declares⟩
  once channel := by
    rw [guards_filter_consultations]
    exact (upToRefusal_isPrefix principal channel _).sublist.trans List.filter_sublist
  complete := by
    intro channel authorized
    obtain ⟨-, granted⟩ := (directory.mem_authorized principal channel).1 authorized
    rw [guards_filter_consultations, upToRefusal_eq_self]
    rw [grants, guardsFor_eq_filter] at granted
    exact List.all_eq_true.1 granted

end Directory

/-- If guards answer at once, an authorisation comes to an end, and in only one way.  Its result is
that of the table, and its consultations are known beforehand: channel after channel in name order,
the guards that declare the channel in the order of registration up to and including the first that
does not say yes. -/
theorem guards_asked_in_turn (guards : List Guard) (principal : Principal) :
    ∃ consultations final,
      (Evaluation.start ⟨guards⟩ principal).Course consultations final ∧
      (Table.build guards).authorize principal = .ok final.partition ∧
      consultations = (⟨guards⟩ : Directory).consultations principal ∧
      (⟨guards⟩ : Directory).Interviews principal consultations ∧
      ∀ others otherFinal, (Evaluation.start ⟨guards⟩ principal).Course others otherFinal →
        others = consultations ∧ otherFinal.partition = final.partition := by
  let directory : Directory := ⟨guards⟩
  have faithful := Evaluation.faithful_start directory principal
  obtain ⟨final, course⟩ := faithful.exists_course
  have outcome := course.outcome faithful
  have log_eq := Evaluation.outstanding_start directory principal
  refine ⟨_, final, course, ?_, log_eq, ?_, fun others otherFinal other => ?_⟩
  · rw [outcome.2]
    exact directory.table_authorize principal
  · rw [log_eq]
    exact directory.interviews_consultations principal
  · obtain ⟨others_eq, other_partition⟩ := other.outcome faithful
    exact ⟨others_eq, other_partition.trans outcome.2.symm⟩

/-- A refusal ends the questioning about its channel, and a guard registered twice is asked twice. -/
example :
    let willing := Guard.constant "willing" (.ok true) [⟨"news"⟩, ⟨"media"⟩]
    let halting := Guard.constant "halting" (.error (.unavailable "down")) [⟨"news"⟩]
    ((⟨[willing, halting, willing]⟩ : Directory).consultations .unresolved).map
        (fun consultation => (consultation.channel.name, consultation.guard.name)) =
      [("media", "willing"), ("media", "willing"), ("news", "willing"), ("news", "halting")] := by
  decide +kernel

end ChannelMembership
