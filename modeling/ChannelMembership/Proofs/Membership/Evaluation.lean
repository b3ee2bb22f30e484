import Mathlib.Data.List.Nodup
import ChannelMembership.Membership.Evaluation

/-!
# Where evaluations lead

However the answers to the questions of an evaluation come in, the decisions agree with what the
guards say about the principal.  Once every channel is decided, the split of the channels is that of
the directory.
-/

namespace ChannelMembership

namespace Directory

theorem mem_authorized (directory : Directory) (principal : Principal) (channel : Channel) :
    channel ∈ (directory.authorize principal).authorized ↔
      directory.governs channel = true ∧ directory.grants principal channel = true := by
  simp [authorize, Partition.ofTest]

theorem mem_unauthorized (directory : Directory) (principal : Principal) (channel : Channel) :
    channel ∈ (directory.authorize principal).unauthorized ↔
      directory.governs channel = true ∧ directory.grants principal channel = false := by
  simp [authorize, Partition.ofTest]

end Directory

namespace Progress

/-- The decision to which the questioning will come. -/
def foretold (principal : Principal) (channel : Channel) : Progress → Bool
  | asking guard rest =>
    (guard :: rest).all fun guard => (guard.decide principal channel).grants
  | decided granted => granted

theorem foretold_start (principal : Principal) (channel : Channel) (guards : List Guard) :
    (start guards).foretold principal channel =
      guards.all fun guard => (guard.decide principal channel).grants := by
  cases guards <;> rfl

/-- The answer of the guard being asked does not change what is foretold. -/
theorem foretold_answer {principal : Principal} {channel : Channel} {progress : Progress}
    {guard : Guard} (asked : progress.asked? = some guard) :
    (progress.answer (guard.decide principal channel).grants).foretold principal channel =
      progress.foretold principal channel := by
  cases progress with
  | decided granted => cases asked
  | asking other rest =>
      cases asked
      cases granted : (guard.decide principal channel).grants with
      | false => simp [answer, foretold, granted]
      | true =>
          simp only [answer, if_true, foretold_start]
          simp [foretold, granted]

theorem foretold_of_decision {principal : Principal} {channel : Channel} {progress : Progress}
    {granted : Bool} (decision : progress.decision? = some granted) :
    progress.foretold principal channel = granted := by
  cases progress with
  | asking guard rest => cases decision
  | decided other =>
      cases decision
      rfl

end Progress

namespace Evaluation

/-- An evaluation of a principal whose lanes belong to the known channels and will come to the
decisions of the directory. -/
structure Faithful (directory : Directory) (principal : Principal) (evaluation : Evaluation) :
    Prop where
  /-- The principal is the one presented. -/
  principal_eq : evaluation.principal = principal
  /-- There is one lane per known channel. -/
  channels_eq : evaluation.lanes.map Lane.channel = directory.channels
  /-- Every lane will come to the right decision. -/
  foretold_eq : ∀ lane ∈ evaluation.lanes,
    lane.progress.foretold principal lane.channel = directory.grants principal lane.channel

theorem faithful_start (directory : Directory) (principal : Principal) :
    (start directory principal).Faithful directory principal where
  principal_eq := rfl
  channels_eq := by simp [start, Function.comp_def]
  foretold_eq := by
    intro lane member
    obtain ⟨channel, -, rfl⟩ := List.mem_map.1 member
    exact Progress.foretold_start principal channel _

variable {directory : Directory} {principal : Principal} {evaluation : Evaluation}

/-- The lane in which a guard is asked about a channel is the only lane of that channel. -/
theorem Faithful.lane_unique (faithful : evaluation.Faithful directory principal) {a b : Lane}
    (member_a : a ∈ evaluation.lanes) (member_b : b ∈ evaluation.lanes)
    (same : a.channel = b.channel) : a = b := by
  have nodup : (evaluation.lanes.map Lane.channel).Nodup := by
    rw [faithful.channels_eq]
    exact directory.nodup_channels
  exact List.inj_on_of_nodup_map nodup member_a member_b same

/-- Asking leaves every lane with its channel. -/
theorem channels_ask (evaluation : Evaluation) (channel : Channel) :
    (evaluation.ask channel).lanes.map Lane.channel = evaluation.lanes.map Lane.channel := by
  unfold Evaluation.ask
  split
  · simp only [answer, List.map_map]
    refine List.map_congr_left fun lane _ => ?_
    by_cases here : lane.channel = channel <;> simp [here]
  · rfl

theorem Faithful.ask (faithful : evaluation.Faithful directory principal) (channel : Channel) :
    (evaluation.ask channel).Faithful directory principal := by
  have channels := (evaluation.channels_ask channel).trans faithful.channels_eq
  unfold Evaluation.ask at channels ⊢
  split
  · rename_i guard asked
    obtain ⟨found, search, asked_found⟩ := Option.bind_eq_some_iff.1 asked
    have found_member := List.mem_of_find?_eq_some search
    have found_channel : found.channel = channel := by simpa using List.find?_some search
    rw [asked] at channels
    refine ⟨faithful.principal_eq, channels, fun lane member => ?_⟩
    obtain ⟨former, former_member, rfl⟩ := List.mem_map.1 member
    by_cases here : former.channel = channel
    · have former_eq : former = found :=
        faithful.lane_unique former_member found_member (here.trans found_channel.symm)
      subst former_eq
      simp only [here, if_true, faithful.principal_eq]
      rw [Progress.foretold_answer asked_found, ← here]
      exact faithful.foretold_eq former former_member
    · simpa [here] using faithful.foretold_eq former former_member
  · exact faithful

/-- The channels of the lanes decided in a given way, when every lane is decided. -/
private theorem Faithful.decided_eq (faithful : evaluation.Faithful directory principal)
    (done : evaluation.isDone = true) (granted : Bool) :
    (evaluation.lanes.filter fun lane => lane.progress.decision? = some granted).map Lane.channel =
      directory.channels.filter fun channel => directory.grants principal channel = granted := by
  rw [← faithful.channels_eq, List.filter_map]
  congr 1
  apply List.filter_congr
  intro lane member
  obtain ⟨decision, decided⟩ :=
    Option.isSome_iff_exists.1 (List.all_eq_true.1 done lane member)
  have agrees : decision = directory.grants principal lane.channel := by
    rw [← Progress.foretold_of_decision decided, faithful.foretold_eq lane member]
  simp [decided, agrees]

/-- Once every channel is decided, the channels are split as the directory splits them. -/
theorem Faithful.partition_eq (faithful : evaluation.Faithful directory principal)
    (done : evaluation.isDone = true) : evaluation.partition = directory.authorize principal := by
  have authorized := faithful.decided_eq done true
  have unauthorized := faithful.decided_eq done false
  simp only [Bool.decide_eq_true, Bool.decide_eq_false] at authorized unauthorized
  simp only [partition, authorized, unauthorized, Directory.authorize, Partition.ofTest]

end Evaluation
end ChannelMembership
