import Mathlib.Data.Finset.Card
import Mathlib.Data.Finset.Image
import ChannelMembership.Presence

/-!
# What is registered

Whatever connections are registered and removed, presence shows one set of pairs of a user and a
connection: the set obtained by putting in and taking out the same pairs in the same order.  A user
is online as long as there is a row for them, which is right because a row goes with its last
connection.  An operation tells whether it has changed the set, and one that has not leaves
everything as it is.
-/

namespace ChannelMembership

namespace PairSet

variable {α β : Type}

@[ext]
theorem ext_rows {first second : PairSet α β} (same : first.rows = second.rows) :
    first = second := by
  obtain ⟨rows, tidy⟩ := first
  cases same
  rfl

/-- All pairs, row after row. -/
def pairs (set : PairSet α β) : List (α × β) :=
  set.rows.flatMap fun row => row.2.map (Prod.mk row.1)

theorem length_pairs (set : PairSet α β) : set.pairs.length = set.size := by
  simp [pairs, size, List.length_flatMap, List.sum_eq_foldr]

theorem nodup_pairs (set : PairSet α β) : set.pairs.Nodup := by
  refine List.nodup_flatMap.2 ⟨fun row member => ?_, ?_⟩
  · exact (set.tidy.filled row member).2.map fun _ _ same => congrArg Prod.snd same
  · refine (List.pairwise_map.1 set.tidy.distinct).imp fun {a b} apart pair inA inB => apart ?_
    obtain ⟨_, -, rfl⟩ := List.mem_map.1 inA
    obtain ⟨_, -, same⟩ := List.mem_map.1 inB
    exact (congrArg Prod.fst same).symm

variable [DecidableEq α] [DecidableEq β]

theorem mem_pairs (set : PairSet α β) (a : α) (b : β) :
    (a, b) ∈ set.pairs ↔ set.relates a b = true := by
  simp only [pairs, List.mem_flatMap, List.mem_map, relates, List.contains_iff_mem]
  constructor
  · rintro ⟨⟨c, row⟩, member, d, listed, same⟩
    cases same
    rwa [set.tidy.partners_of_mem member]
  · intro listed
    exact ⟨_, Rows.mem_of_partners_ne_nil (List.ne_nil_of_mem listed), b, listed, rfl⟩

variable {set : PairSet α β} {pairs : Finset (α × β)}

/-- There are as many pairs as the rows are long together. -/
theorem size_eq_card (depicts : ∀ a b, set.relates a b = true ↔ (a, b) ∈ pairs) :
    set.size = pairs.card := by
  have same : pairs = set.pairs.toFinset := by
    ext ⟨a, b⟩
    rw [List.mem_toFinset, mem_pairs, depicts]
  rw [same, List.toFinset_card_of_nodup set.nodup_pairs, length_pairs]

/-- There are as many rows as there are different elements on the left. -/
theorem count_eq_card (depicts : ∀ a b, set.relates a b = true ↔ (a, b) ∈ pairs) :
    set.count = (pairs.image Prod.fst).card := by
  have same : pairs.image Prod.fst = (set.rows.map Prod.fst).toFinset := by
    ext a
    rw [List.mem_toFinset, Finset.mem_image]
    have listed : a ∈ set.rows.map Prod.fst ↔ set.hasRow a = true := by simp [hasRow]
    rw [listed, hasRow_iff]
    constructor
    · rintro ⟨⟨c, b⟩, member, rfl⟩
      exact ⟨b, (depicts c b).2 member⟩
    · rintro ⟨b, related⟩
      exact ⟨(a, b), (depicts a b).1 related, rfl⟩
  rw [same, List.toFinset_card_of_nodup set.tidy.distinct, List.length_map]
  rfl

theorem insert_of_relates {a : α} {b : β} (present : set.relates a b = true) :
    (set.insert a b).1 = set :=
  ext_rows (Rows.insert_of_mem (List.contains_iff_mem.1 present))

theorem erase_of_not_relates {a : α} {b : β} (absent : set.relates a b = false) :
    (set.erase a b).1 = set := by
  refine ext_rows (set.tidy.erase_of_not_mem fun present => ?_)
  rw [relates, List.contains_iff_mem.2 present] at absent
  cases absent

end PairSet

namespace Presence

theorem register_snd (presence : Presence) (user : UserKey) (connection : Connection) :
    (presence.register user connection).2 = !presence.contains user connection := rfl

theorem deregister_snd (presence : Presence) (user : UserKey) (connection : Connection) :
    (presence.deregister user connection).2 = presence.contains user connection := rfl

theorem register_of_contains {presence : Presence} {user : UserKey} {connection : Connection}
    (present : presence.contains user connection = true) :
    (presence.register user connection).1 = presence :=
  congrArg mk (PairSet.insert_of_relates present)

theorem deregister_of_not_contains {presence : Presence} {user : UserKey} {connection : Connection}
    (absent : presence.contains user connection = false) :
    (presence.deregister user connection).1 = presence :=
  congrArg mk (PairSet.erase_of_not_relates absent)

/-- Presence shows a set of pairs of a user and a connection. -/
structure Depicts (presence : Presence) (pairs : Finset (UserKey × Connection)) : Prop where
  /-- The registered pairs are those of the set. -/
  contains_iff : ∀ user connection,
    presence.contains user connection = true ↔ (user, connection) ∈ pairs
  /-- The connections of a user are those paired with them. -/
  mem_connections_iff : ∀ user connection,
    connection ∈ presence.connections user ↔ (user, connection) ∈ pairs
  /-- No connection of a user is listed twice. -/
  nodup_connections : ∀ user, (presence.connections user).Nodup
  /-- A user is online if they belong to some pair. -/
  isOnline_iff : ∀ user,
    presence.isOnline user = true ↔ ∃ connection, (user, connection) ∈ pairs
  /-- The users who are online are those of the pairs. -/
  mem_users_iff : ∀ user, user ∈ presence.users ↔ ∃ connection, (user, connection) ∈ pairs
  /-- No user is listed twice. -/
  nodup_users : presence.users.Nodup
  /-- As many users are counted as there are different ones in the pairs. -/
  userCount_eq : presence.userCount = (pairs.image Prod.fst).card
  /-- As many connections are counted as there are pairs. -/
  connectionCount_eq : presence.connectionCount = pairs.card

/-- All views of presence agree once the registered pairs are right. -/
theorem depicts_of_contains {presence : Presence} {pairs : Finset (UserKey × Connection)}
    (contains_iff : ∀ user connection,
      presence.contains user connection = true ↔ (user, connection) ∈ pairs) :
    presence.Depicts pairs where
  contains_iff := contains_iff
  mem_connections_iff := by simp [contains_iff]
  nodup_connections := fun _ => nodup_sortedSet _
  isOnline_iff := by simp [Presence.isOnline_iff, contains_iff]
  mem_users_iff := by simp [Presence.isOnline_iff, contains_iff]
  nodup_users := nodup_sortedSet _
  userCount_eq := PairSet.count_eq_card contains_iff
  connectionCount_eq := PairSet.size_eq_card contains_iff

end Presence

/-- An operation on what is registered. -/
inductive Registration where
  /-- Register a connection under a user. -/
  | add (user : UserKey) (connection : Connection)
  /-- Remove a connection from a user. -/
  | remove (user : UserKey) (connection : Connection)

namespace Registration

/-- Carry out an operation on presence; tells what it answers. -/
def perform (presence : Presence) : Registration → Presence × Bool
  | add user connection => presence.register user connection
  | remove user connection => presence.deregister user connection

/-- Carry out an operation on a set of pairs. -/
def onPairs (pairs : Finset (UserKey × Connection)) :
    Registration → Finset (UserKey × Connection)
  | add user connection => insert (user, connection) pairs
  | remove user connection => pairs.erase (user, connection)

/-- Whether an operation changes a set of pairs. -/
def Changes (pairs : Finset (UserKey × Connection)) : Registration → Prop
  | add user connection => (user, connection) ∉ pairs
  | remove user connection => (user, connection) ∈ pairs

/-- What is registered after some operations, when nobody was online before. -/
def presenceAfter (operations : List Registration) : Presence :=
  operations.foldl (fun presence operation => (operation.perform presence).1) Presence.empty

/-- The pairs left after some operations on the empty set. -/
def pairsAfter (operations : List Registration) : Finset (UserKey × Connection) :=
  operations.foldl onPairs ∅

variable {presence : Presence} {pairs : Finset (UserKey × Connection)}

theorem depicts_perform (depicts : presence.Depicts pairs) (operation : Registration) :
    (operation.perform presence).1.Depicts (operation.onPairs pairs) := by
  refine Presence.depicts_of_contains fun other another => ?_
  cases operation with
  | add user connection =>
      have added := presence.contains_add user other connection another
      rw [depicts.contains_iff] at added
      simpa [perform, onPairs, Presence.add] using added
  | remove user connection =>
      have removed := presence.contains_remove user other connection another
      rw [depicts.contains_iff] at removed
      simpa [perform, onPairs, Presence.remove] using removed

theorem depicts_foldl (depicts : presence.Depicts pairs) (operations : List Registration) :
    (operations.foldl (fun presence operation => (operation.perform presence).1)
      presence).Depicts (operations.foldl onPairs pairs) := by
  induction operations generalizing presence pairs with
  | nil => exact depicts
  | cons operation rest ih => exact ih (depicts_perform depicts operation)

theorem depicts_after (operations : List Registration) :
    (presenceAfter operations).Depicts (pairsAfter operations) :=
  depicts_foldl (Presence.depicts_of_contains (by simp [Presence.contains, Presence.empty]))
    operations

theorem perform_snd_iff (depicts : presence.Depicts pairs) (operation : Registration) :
    (operation.perform presence).2 = true ↔ operation.Changes pairs := by
  cases operation with
  | add user connection =>
      rw [perform, Presence.register_snd, Changes, ← depicts.contains_iff]
      simp
  | remove user connection =>
      rw [perform, Presence.deregister_snd, Changes, ← depicts.contains_iff]

theorem perform_fst_of_snd {operation : Registration}
    (idle : (operation.perform presence).2 = false) :
    (operation.perform presence).1 = presence := by
  cases operation with
  | add user connection =>
      rw [perform, Presence.register_snd, Bool.not_eq_false'] at idle
      exact Presence.register_of_contains idle
  | remove user connection =>
      rw [perform, Presence.deregister_snd] at idle
      exact Presence.deregister_of_not_contains idle

end Registration

/-- After any operations presence shows the set of pairs that the same operations make of the empty
set.  The next operation, too, answers that it has changed something exactly if it changes that set,
and if it answers that it has not, everything stays as it is. -/
theorem presence_depicts_pairs (operations : List Registration) :
    (Registration.presenceAfter operations).Depicts (Registration.pairsAfter operations) ∧
      ∀ operation : Registration,
        ((operation.perform (Registration.presenceAfter operations)).2 = true ↔
          operation.Changes (Registration.pairsAfter operations)) ∧
        ((operation.perform (Registration.presenceAfter operations)).2 = false →
          (operation.perform (Registration.presenceAfter operations)).1 =
            Registration.presenceAfter operations) := by
  have depicts := Registration.depicts_after operations
  exact ⟨depicts, fun operation =>
    ⟨Registration.perform_snd_iff depicts operation, Registration.perform_fst_of_snd⟩⟩

end ChannelMembership
