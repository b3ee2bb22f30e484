import Mathlib.Data.List.Sort
import ChannelMembership.Proofs.Membership.Evaluation

/-!
# What is authorised

A table built from guards lists the channels that some guard declares, so it never fails to
authorise a principal.  A channel is authorised if every guard that declares it answers yes; a
refusal or an error of one guard denies that channel and no other.  The order of registration, and
whether a guard is registered once or several times, makes no difference, nor does the order in
which answers come in when all channels are looked at together.
-/

namespace ChannelMembership

namespace Ascending

variable {α : Type} [LE α] [Std.IsLinearOrder α]

/-- Strictly ascending lists of the same elements are equal. -/
theorem Strict.eq_of_mem_iff {first second : List α} (strict_first : Strict first)
    (strict_second : Strict second) (same : ∀ a, a ∈ first ↔ a ∈ second) : first = second := by
  have antisymm : Std.Antisymm fun a b : α => a ≤ b ∧ a ≠ b :=
    ⟨fun _ _ below above => Std.le_antisymm below.1 above.1⟩
  have irrefl : Std.Irrefl fun a b : α => a ≤ b ∧ a ≠ b := ⟨fun _ below => below.2 rfl⟩
  exact List.Pairwise.eq_of_mem_iff strict_first strict_second same

end Ascending

theorem Verdict.grants_iff {verdict : Verdict} : verdict.grants = true ↔ verdict = .ok true := by
  cases verdict with
  | ok granted => simp [Verdict.grants]
  | error error => simp [Verdict.grants]

/-- Stopping at the first guard that does not grant the channel leaves the answer as it is. -/
theorem unanimous_eq_all (principal : Principal) (channel : Channel) (guards : List Guard) :
    unanimous principal channel guards =
      guards.all fun guard => (guard.decide principal channel).grants := by
  induction guards with
  | nil => rfl
  | cons guard rest ih =>
      simp only [unanimous, List.all_cons, ← ih]
      cases guard.decide principal channel with
      | error error => simp [Verdict.grants]
      | ok granted => cases granted <;> simp [Verdict.grants]

namespace Partition

/-- One side of a partition: the channels on which the decision is the given one. -/
def side (partition : Partition) : Bool → List Channel
  | true => partition.authorized
  | false => partition.unauthorized

/-- Both sides are shown in name order. -/
def Ordered (partition : Partition) : Prop := ∀ granted, Ascending.Strict (partition.side granted)

theorem mem_side_record (partition : Partition) (channel other : Channel)
    (decision granted : Bool) :
    other ∈ (partition.record channel decision).side granted ↔
      (other = channel ∧ decision = granted) ∨ other ∈ partition.side granted := by
  cases decision <;> cases granted <;> simp [record, side]

theorem Ordered.record {partition : Partition} (ordered : partition.Ordered) (channel : Channel)
    (decision : Bool) : (partition.record channel decision).Ordered := by
  intro granted
  cases decision <;> cases granted
  · exact (ordered false).insert channel
  · exact ordered true
  · exact ordered false
  · exact (ordered true).insert channel

theorem Ordered.recordAll {principal : Principal} {partition : Partition}
    (ordered : partition.Ordered) (questions : List (Channel × List Guard)) :
    (recordAll principal questions partition).Ordered := by
  induction questions generalizing partition with
  | nil => exact ordered
  | cons question rest ih => exact ih (ordered.record _ _)

theorem mem_side_recordAll (principal : Principal) (questions : List (Channel × List Guard))
    (partition : Partition) (channel : Channel) (granted : Bool) :
    channel ∈ (recordAll principal questions partition).side granted ↔
      (∃ guards, (channel, guards) ∈ questions ∧
          unanimous principal channel guards = granted) ∨
        channel ∈ partition.side granted := by
  induction questions generalizing partition with
  | nil => simp [recordAll]
  | cons question rest ih =>
      obtain ⟨first, guards⟩ := question
      rw [recordAll, ih, mem_side_record]
      constructor
      · rintro (⟨others, later, decided⟩ | ⟨rfl, decided⟩ | former)
        · exact .inl ⟨others, List.mem_cons_of_mem _ later, decided⟩
        · exact .inl ⟨guards, List.mem_cons_self, decided⟩
        · exact .inr former
      · rintro (⟨others, member, decided⟩ | former)
        · rcases List.mem_cons.1 member with same | later
          · cases same
            exact .inr (.inl ⟨rfl, decided⟩)
          · exact .inl ⟨others, later, decided⟩
        · exact .inr (.inr former)

/-- Partitions in name order with the same channels on both sides are equal. -/
theorem Ordered.eq_of_mem_iff {first second : Partition} (ordered_first : first.Ordered)
    (ordered_second : second.Ordered)
    (same : ∀ channel granted, channel ∈ first.side granted ↔ channel ∈ second.side granted) :
    first = second := by
  have sides : ∀ granted, first.side granted = second.side granted := fun granted =>
    (ordered_first granted).eq_of_mem_iff (ordered_second granted) fun channel =>
      same channel granted
  obtain ⟨authorized, unauthorized⟩ := first
  obtain ⟨authorized', unauthorized'⟩ := second
  have authorized_eq : authorized = authorized' := sides true
  have unauthorized_eq : unauthorized = unauthorized' := sides false
  rw [authorized_eq, unauthorized_eq]

end Partition

namespace Table

/-- Every guard entered in a table built from guards is one of them, so no row is empty. -/
theorem guardsFor_build_ne_nil {guards : List Guard} {channel : Channel}
    (listed : (build guards).lists channel = true) : (build guards).guardsFor channel ≠ [] := by
  rw [lists_build] at listed
  obtain ⟨guard, member, declared⟩ := List.any_eq_true.1 listed
  rw [guardsFor_build]
  exact List.ne_nil_of_mem (List.mem_filter.2 ⟨member, declared⟩)

private theorem mapM_eq_ok {α β ε : Type} {items : List α} {f : α → Except ε β} {g : α → β}
    (succeeds : ∀ a ∈ items, f a = .ok (g a)) : items.mapM f = .ok (items.map g) := by
  induction items with
  | nil => rfl
  | cons a rest ih =>
      rw [List.mapM_cons, succeeds a List.mem_cons_self,
        ih fun b later => succeeds b (List.mem_cons_of_mem _ later)]
      rfl

/-- The questions about the channels of a table without empty rows. -/
theorem questions_eq_ok {table : Table}
    (filled : ∀ channel, table.lists channel = true → table.guardsFor channel ≠ []) :
    table.questions =
      .ok (table.channels.map fun channel => (channel, table.guardsFor channel)) := by
  refine mapM_eq_ok fun channel listed => ?_
  have some := filled channel ((mem_channels _ _).1 listed)
  simp [some]

/-- What a table built from guards answers when a principal is authorised. -/
theorem authorize_build (guards : List Guard) (principal : Principal) :
    (build guards).authorize principal =
      .ok (Partition.recordAll principal
        ((build guards).channels.map fun channel =>
          (channel, guards.filter (·.declares channel)))
        Partition.empty) := by
  simp only [authorize, questions_eq_ok fun _ => guardsFor_build_ne_nil, guardsFor_build]
  rfl

end Table

namespace Directory

/-- A channel is granted if every guard that declares it answers yes. -/
theorem grants_iff (directory : Directory) (principal : Principal) (channel : Channel) :
    directory.grants principal channel = true ↔
      ∀ guard ∈ directory.guards, channel ∈ guard.channels →
        guard.decide principal channel = .ok true := by
  simp only [grants, guardsFor, table, Table.guardsFor_build, List.all_eq_true, List.mem_filter,
    Guard.declares, List.contains_iff_mem, Verdict.grants_iff, and_imp]

theorem mem_side_authorize (directory : Directory) (principal : Principal) (channel : Channel)
    (granted : Bool) :
    channel ∈ (directory.authorize principal).side granted ↔
      directory.governs channel = true ∧ directory.grants principal channel = granted := by
  cases granted
  · exact directory.mem_unauthorized principal channel
  · exact directory.mem_authorized principal channel

theorem ordered_authorize (directory : Directory) (principal : Principal) :
    (directory.authorize principal).Ordered := by
  intro granted
  cases granted <;> exact directory.table.ascending.filter _

/-- Asking the guards of every channel in turn and entering the decisions one by one splits the
channels by what their guards say. -/
theorem table_authorize (directory : Directory) (principal : Principal) :
    directory.table.authorize principal = .ok (directory.authorize principal) := by
  rw [table, Table.authorize_build]
  congr 1
  refine Partition.Ordered.eq_of_mem_iff (.recordAll ?_ _)
    (directory.ordered_authorize principal) fun channel granted => ?_
  · intro granted
    cases granted <;> exact List.Pairwise.nil
  · have empty : channel ∉ Partition.empty.side granted := by
      cases granted <;> exact List.not_mem_nil
    rw [Partition.mem_side_recordAll, or_iff_left empty, mem_side_authorize, grants,
      ← mem_channels, guardsFor, table, Table.guardsFor_build, ← unanimous_eq_all]
    constructor
    · rintro ⟨guards, member, decided⟩
      obtain ⟨listed, known, same⟩ := List.mem_map.1 member
      cases same
      exact ⟨known, decided⟩
    · rintro ⟨known, decided⟩
      exact ⟨_, List.mem_map.2 ⟨channel, known, rfl⟩, decided⟩

/-- What is governed and granted decides how the channels are split. -/
theorem authorize_eq_of_grants_iff {first second : Directory} {principal other : Principal}
    (governed : ∀ channel, first.governs channel = true ↔ second.governs channel = true)
    (granted : ∀ channel,
      first.grants principal channel = true ↔ second.grants other channel = true) :
    first.authorize principal = second.authorize other := by
  refine (first.ordered_authorize principal).eq_of_mem_iff (second.ordered_authorize other)
    fun channel decision => ?_
  rw [mem_side_authorize, mem_side_authorize, governed, Bool.eq_iff_iff.2 (granted channel)]

/-- The same guards in another order, or registered more often, authorise in the same way. -/
theorem authorize_eq_of_mem_iff {first second : Directory}
    (same : ∀ guard, guard ∈ first.guards ↔ guard ∈ second.guards) (principal : Principal) :
    first.authorize principal = second.authorize principal :=
  authorize_eq_of_grants_iff (fun channel => by simp only [governs_iff, same])
    fun channel => by simp only [grants_iff, same]

end Directory

namespace Progress

/-- How many answers it takes at most to come to a decision. -/
def remaining : Progress → Nat
  | asking _ rest => rest.length + 1
  | decided _ => 0

theorem remaining_start (guards : List Guard) : (start guards).remaining = guards.length := by
  cases guards <;> rfl

theorem remaining_answer (granted : Bool) (progress : Progress) :
    (progress.answer granted).remaining ≤ progress.remaining - 1 := by
  cases progress with
  | decided other => exact Nat.le_refl 0
  | asking guard rest =>
      cases granted with
      | false => exact Nat.zero_le _
      | true =>
          show (start rest).remaining ≤ rest.length + 1 - 1
          rw [remaining_start]
          omega

theorem isSome_decision?_of_remaining {progress : Progress} (done : progress.remaining = 0) :
    progress.decision?.isSome = true := by
  cases progress with
  | asking guard rest => cases done
  | decided granted => rfl

end Progress

namespace Evaluation

variable {directory : Directory} {principal : Principal} {evaluation : Evaluation}

/-- An answer brings the lane of its channel nearer to its decision and leaves the others alone. -/
theorem Faithful.remaining_ask (faithful : evaluation.Faithful directory principal)
    {channel : Channel} {lane : Lane} (member : lane ∈ (evaluation.ask channel).lanes) :
    ∃ former ∈ evaluation.lanes, former.channel = lane.channel ∧
      lane.progress.remaining ≤ former.progress.remaining - [channel].count lane.channel := by
  unfold Evaluation.ask at member
  split at member
  · obtain ⟨former, member_former, rfl⟩ := List.mem_map.1 member
    by_cases here : former.channel = channel
    · refine ⟨former, member_former, by simp [here], ?_⟩
      simpa [here] using former.progress.remaining_answer _
    · refine ⟨former, member_former, by simp [here], ?_⟩
      simp [here, Ne.symm here]
  · rename_i silent
    refine ⟨lane, member, rfl, ?_⟩
    by_cases here : lane.channel = channel
    · -- the lane of the channel is the one that was found to be decided
      have decided : lane.progress.asked? = none := by
        obtain ⟨found, search⟩ : ∃ found,
            evaluation.lanes.find? (fun lane => lane.channel = channel) = some found :=
          Option.isSome_iff_exists.1 (List.find?_isSome.2 ⟨lane, member, by simpa using here⟩)
        have found_channel : found.channel = channel := by simpa using List.find?_some search
        rw [faithful.lane_unique member (List.mem_of_find?_eq_some search)
          (here.trans found_channel.symm)]
        simpa [asked?, search] using silent
      cases progress : lane.progress with
      | asking guard rest => simp [progress, Progress.asked?] at decided
      | decided granted => exact Nat.zero_le _
    · simp [Ne.symm here]

theorem Faithful.foldl_ask (faithful : evaluation.Faithful directory principal)
    (order : List Channel) :
    (order.foldl Evaluation.ask evaluation).Faithful directory principal := by
  induction order generalizing evaluation with
  | nil => exact faithful
  | cons channel rest ih => exact ih (faithful.ask channel)

theorem Faithful.remaining_foldl_ask (faithful : evaluation.Faithful directory principal)
    {order : List Channel} {lane : Lane}
    (member : lane ∈ (order.foldl Evaluation.ask evaluation).lanes) :
    ∃ former ∈ evaluation.lanes, former.channel = lane.channel ∧
      lane.progress.remaining ≤ former.progress.remaining - order.count lane.channel := by
  induction order generalizing evaluation with
  | nil => exact ⟨lane, member, rfl, Nat.le_refl _⟩
  | cons channel rest ih =>
      obtain ⟨middle, member_middle, channel_middle, nearer⟩ := ih (faithful.ask channel) member
      obtain ⟨former, member_former, channel_former, near⟩ := faithful.remaining_ask member_middle
      refine ⟨former, member_former, channel_former.trans channel_middle, ?_⟩
      rw [channel_middle] at near
      have split : (channel :: rest).count lane.channel =
          [channel].count lane.channel + rest.count lane.channel := by
        rw [← List.count_append]
        rfl
      omega

/-- When every channel has been asked about as often as it has guards, all are decided. -/
theorem isDone_of_count {order : List Channel}
    (enough : ∀ channel, (directory.guardsFor channel).length ≤ order.count channel) :
    (order.foldl Evaluation.ask (start directory principal)).isDone = true := by
  refine List.all_eq_true.2 fun lane member => Progress.isSome_decision?_of_remaining ?_
  obtain ⟨former, member_former, same, near⟩ :=
    (faithful_start directory principal).remaining_foldl_ask member
  obtain ⟨channel, -, rfl⟩ := List.mem_map.1 member_former
  have begun := Progress.remaining_start (directory.guardsFor channel)
  have asked := enough channel
  simp only at same near
  rw [← same] at near
  omega

end Evaluation

/-- A partition splits the declared channels by the answers of the guards that declare them. -/
structure Partition.Splits (guards : List Guard) (principal : Principal)
    (partition : Partition) : Prop where
  /-- No channel is listed twice. -/
  once : partition.channels.Nodup
  /-- No channel is on both sides. -/
  disjoint : ∀ channel ∈ partition.authorized, channel ∉ partition.unauthorized
  /-- The channels on either side are those that some guard declares. -/
  covers : ∀ channel, channel ∈ partition.channels ↔ ∃ guard ∈ guards, channel ∈ guard.channels
  /-- A channel is authorised if it is declared and every guard that declares it answers yes. -/
  authorized_iff : ∀ channel, channel ∈ partition.authorized ↔
    (∃ guard ∈ guards, channel ∈ guard.channels) ∧
      ∀ guard ∈ guards, channel ∈ guard.channels → guard.decide principal channel = .ok true
  /-- A channel that no guard declares is not authorised. -/
  undeclared : ∀ channel, (∀ guard ∈ guards, channel ∉ guard.channels) →
    partition.authorizes channel = false

theorem Directory.splits_authorize (directory : Directory) (principal : Principal) :
    (directory.authorize principal).Splits directory.guards principal := by
  have ordered := directory.ordered_authorize principal
  have disjoint : ∀ channel ∈ (directory.authorize principal).authorized,
      channel ∉ (directory.authorize principal).unauthorized := by
    intro channel authorized unauthorized
    rw [mem_authorized] at authorized
    rw [mem_unauthorized, authorized.2] at unauthorized
    cases unauthorized.2
  have authorized_iff : ∀ channel, channel ∈ (directory.authorize principal).authorized ↔
      (∃ guard ∈ directory.guards, channel ∈ guard.channels) ∧
        ∀ guard ∈ directory.guards, channel ∈ guard.channels →
          guard.decide principal channel = .ok true := by
    intro channel
    rw [mem_authorized, governs_iff, grants_iff]
  refine ⟨?_, disjoint, fun channel => ?_, authorized_iff, fun channel undeclared => ?_⟩
  · exact List.Nodup.append (ordered true).nodup (ordered false).nodup disjoint
  · rw [Partition.channels, List.mem_append, mem_authorized, mem_unauthorized, ← and_or_left,
      governs_iff]
    cases directory.grants principal channel <;> simp
  · rw [← Bool.not_eq_true, Partition.authorizes, List.contains_iff_mem, authorized_iff]
    rintro ⟨⟨guard, member, declared⟩, -⟩
    exact undeclared guard member declared

/-- Whatever guards a table was built from, and whatever they answer, a principal is authorised.
The result splits the declared channels by the conjunction of the answers.  It does not depend on
the order and the number of registrations, nor on the order in which the answers come in. -/
theorem authorization_exact (guards : List Guard) (principal : Principal) :
    ∃ partition, (Table.build guards).authorize principal = .ok partition ∧
      partition.Splits guards principal ∧
      (∀ others : List Guard, (∀ guard, guard ∈ others ↔ guard ∈ guards) →
        (Table.build others).authorize principal = .ok partition) ∧
      ∀ order : List Channel,
        (∀ channel, (guards.filter (·.declares channel)).length ≤ order.count channel) →
          (order.foldl Evaluation.ask (Evaluation.start ⟨guards⟩ principal)).isDone = true ∧
          (order.foldl Evaluation.ask (Evaluation.start ⟨guards⟩ principal)).partition =
            partition := by
  refine ⟨(⟨guards⟩ : Directory).authorize principal, Directory.table_authorize ⟨guards⟩ principal,
    Directory.splits_authorize ⟨guards⟩ principal, fun others same => ?_, fun order enough => ?_⟩
  · have agree : (⟨others⟩ : Directory).authorize principal =
        (⟨guards⟩ : Directory).authorize principal :=
      Directory.authorize_eq_of_mem_iff same principal
    rw [← agree]
    exact Directory.table_authorize ⟨others⟩ principal
  · have done : (order.foldl Evaluation.ask (Evaluation.start ⟨guards⟩ principal)).isDone = true :=
      Evaluation.isDone_of_count fun channel => by
        rw [Directory.guardsFor, Directory.table, Table.guardsFor_build]
        exact enough channel
    exact ⟨done, ((Evaluation.faithful_start _ _).foldl_ask order).partition_eq done⟩

/-- A guard that cannot decide denies the channel it is asked about, and leaves the other one. -/
example :
    (Table.build [Guard.constant "open" (.ok true) [⟨"news"⟩, ⟨"media"⟩],
        Guard.constant "halting" (.error (.unavailable "down")) [⟨"news"⟩, ⟨"news"⟩]]).authorize
        .unresolved =
      .ok ⟨[⟨"media"⟩], [⟨"news"⟩]⟩ := by
  decide +kernel

end ChannelMembership
