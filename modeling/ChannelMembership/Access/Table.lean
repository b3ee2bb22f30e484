import ChannelMembership.Access.Guard
import ChannelMembership.Rows

/-!
# The table of channels

The table lists channels in name order, each with the guards that were entered for it.  A table is
built from guards by entering one guard after the other, once for every channel it declares.
-/

namespace ChannelMembership

/-- Channels with the guards entered for them. -/
structure Table where
  /-- A row per listed channel with its guards, the one entered first in front. -/
  rows : List (Channel × List Guard)
  /-- The channels are listed in name order. -/
  ascending : Ascending.Strict (rows.map Prod.fst)

namespace Table

/-- No channel is listed. -/
def empty : Table := ⟨[], List.Pairwise.nil⟩

/-- The listed channels in name order. -/
def channels (table : Table) : List Channel := table.rows.map Prod.fst

/-- The guards entered for a channel; for a channel that is not listed there are none. -/
def guardsFor (table : Table) (channel : Channel) : List Guard :=
  Rows.partners channel table.rows

/-- Whether a channel is listed. -/
def lists (table : Table) (channel : Channel) : Bool :=
  table.rows.any fun row => row.1 = channel

/-- Put a guard at the end of the row of a channel, which is made in its place if there is none. -/
def place (channel : Channel) (guard : Guard) :
    List (Channel × List Guard) → List (Channel × List Guard)
  | [] => [(channel, [guard])]
  | (other, guards) :: rest =>
    if channel = other then (other, guards ++ [guard]) :: rest
    else if channel ≤ other then (channel, [guard]) :: (other, guards) :: rest
    else (other, guards) :: place channel guard rest

theorem channels_place (channel : Channel) (guard : Guard) (rows : List (Channel × List Guard)) :
    (place channel guard rows).map Prod.fst =
      Ascending.insert (fun a b => decide (a ≤ b)) channel (rows.map Prod.fst) := by
  induction rows with
  | nil => rfl
  | cons row rest ih =>
      by_cases same : channel = row.1
      · simp [place, Ascending.insert, same]
      · by_cases before : channel ≤ row.1
        · simp [place, Ascending.insert, same, before]
        · simp [place, Ascending.insert, same, before, ih]

/-- Enter a guard for a channel. -/
def enter (table : Table) (channel : Channel) (guard : Guard) : Table where
  rows := place channel guard table.rows
  ascending := by
    rw [channels_place]
    exact table.ascending.insert channel

/-- Enter a guard for the channels it declares, for each of them once. -/
def enlist (guard : Guard) : List Channel → List Channel → Table → Table
  | [], _, table => table
  | channel :: rest, seen, table =>
    if seen.contains channel then enlist guard rest seen table
    else enlist guard rest (channel :: seen) (table.enter channel guard)

/-- Enter guards one after the other. -/
def enlistAll : List Guard → Table → Table
  | [], table => table
  | guard :: rest, table => enlistAll rest (enlist guard guard.channels [] table)

/-- The table of some guards. -/
def build (guards : List Guard) : Table := enlistAll guards empty

@[simp]
theorem mem_channels (table : Table) (channel : Channel) :
    channel ∈ table.channels ↔ table.lists channel = true := by
  simp [channels, lists]

@[simp]
theorem lists_enter (table : Table) (channel other : Channel) (guard : Guard) :
    (table.enter channel guard).lists other = true ↔
      other = channel ∨ table.lists other = true := by
  simp only [← mem_channels, channels, enter, channels_place, Ascending.mem_insert]

theorem partners_place {rows : List (Channel × List Guard)}
    (ascending : Ascending.Strict (rows.map Prod.fst)) (channel other : Channel) (guard : Guard) :
    Rows.partners other (place channel guard rows) =
      Rows.partners other rows ++ if other = channel then [guard] else [] := by
  induction rows with
  | nil => by_cases same : other = channel <;> simp [place, Rows.partners, same, Ne.symm]
  | cons row rest ih =>
      obtain ⟨below, ascending_rest⟩ := List.pairwise_cons.1 ascending
      by_cases here : channel = row.1
      · by_cases same : row.1 = other
        · simp [place, Rows.partners, here, same]
        · simp [place, Rows.partners, here, same, Ne.symm same]
      · by_cases before : channel ≤ row.1
        · -- the row is made in front of channels that all come later
          have unlisted : channel ∉ (row :: rest).map Prod.fst := by
            intro listed
            rcases List.mem_cons.1 listed with first | later
            · exact here first
            · obtain ⟨le_channel, -⟩ := below channel later
              exact here (Std.le_antisymm before le_channel)
          have none := Rows.partners_of_not_mem unlisted
          by_cases same : channel = other
          · subst same
            simp only [place, here, before, if_false, if_true, none, List.nil_append]
            simp [Rows.partners]
          · simp [place, here, before, Rows.partners, same, Ne.symm same]
        · by_cases same : row.1 = other
          · subst same
            simp [place, here, before, Rows.partners, Ne.symm here]
          · simp [place, here, before, Rows.partners, same, ih ascending_rest]

theorem guardsFor_enter (table : Table) (channel other : Channel) (guard : Guard) :
    (table.enter channel guard).guardsFor other =
      table.guardsFor other ++ if other = channel then [guard] else [] :=
  partners_place table.ascending channel other guard

private theorem unseen_cons {first channel : Channel} {rest seen : List Channel}
    (known : first ∈ seen) :
    channel ∈ first :: rest ∧ channel ∉ seen ↔ channel ∈ rest ∧ channel ∉ seen := by
  simp only [List.mem_cons, and_congr_left_iff, or_iff_right_iff_imp]
  rintro unseen rfl
  exact absurd known unseen

theorem lists_enlist (guard : Guard) (declared seen : List Channel) (table : Table)
    (channel : Channel) :
    (enlist guard declared seen table).lists channel = true ↔
      (channel ∈ declared ∧ channel ∉ seen) ∨ table.lists channel = true := by
  induction declared generalizing seen table with
  | nil => simp [enlist]
  | cons first rest ih =>
      by_cases known : first ∈ seen
      · simp only [enlist, List.contains_iff_mem, known, if_true, ih, unseen_cons known]
      · simp only [enlist, List.contains_iff_mem, known, if_false, ih, lists_enter,
          List.mem_cons, not_or]
        by_cases same : channel = first
        · simp [same, known]
        · simp [same]

theorem guardsFor_enlist (guard : Guard) (declared seen : List Channel) (table : Table)
    (channel : Channel) :
    (enlist guard declared seen table).guardsFor channel =
      table.guardsFor channel ++
        if channel ∈ declared ∧ channel ∉ seen then [guard] else [] := by
  induction declared generalizing seen table with
  | nil => simp [enlist]
  | cons first rest ih =>
      by_cases known : first ∈ seen
      · simp only [enlist, List.contains_iff_mem, known, if_true, ih, unseen_cons known]
      · simp only [enlist, List.contains_iff_mem, known, if_false, ih, guardsFor_enter,
          List.mem_cons, not_or, List.append_assoc]
        by_cases same : channel = first
        · simp [same, known]
        · simp [same]

theorem lists_enlistAll (guards : List Guard) (table : Table) (channel : Channel) :
    (enlistAll guards table).lists channel = true ↔
      guards.any (·.declares channel) = true ∨ table.lists channel = true := by
  induction guards generalizing table with
  | nil => simp [enlistAll]
  | cons guard rest ih =>
      simp only [enlistAll, ih, lists_enlist, List.any_cons, Bool.or_eq_true, Guard.declares,
        List.contains_iff_mem, List.not_mem_nil, not_false_eq_true, and_true]
      rw [← or_assoc, or_comm (a := channel ∈ guard.channels)]

theorem guardsFor_enlistAll (guards : List Guard) (table : Table) (channel : Channel) :
    (enlistAll guards table).guardsFor channel =
      table.guardsFor channel ++ guards.filter (·.declares channel) := by
  induction guards generalizing table with
  | nil => simp [enlistAll]
  | cons guard rest ih =>
      simp only [enlistAll, ih, guardsFor_enlist, List.append_assoc]
      by_cases declared : channel ∈ guard.channels <;> simp [Guard.declares, declared]

/-- A channel is listed if some guard declares it. -/
theorem lists_build (guards : List Guard) (channel : Channel) :
    (build guards).lists channel = guards.any (·.declares channel) := by
  rw [Bool.eq_iff_iff, build, lists_enlistAll]
  simp [lists, empty]

/-- The guards entered for a channel are those that declare it. -/
theorem guardsFor_build (guards : List Guard) (channel : Channel) :
    (build guards).guardsFor channel = guards.filter (·.declares channel) := by
  rw [build, guardsFor_enlistAll]
  rfl

end Table
end ChannelMembership
