import ChannelMembership.Overview
import ChannelMembership.Proofs.Registration
import ChannelMembership.Proofs.Transport.Dealing

/-!
# The last word on a membership

Groups are kept channel by channel, while a connection that is closed is taken out of all of them
and the groups of a connection are gathered from all of them.  Whatever is done with an exchange,
the groups show one relation: a connection is in the group of a channel if it was put there and has
neither been taken out nor closed since.  A channel that nobody is in any more leaves nothing
behind, so counting what is kept counts the channels with a member.
-/

namespace ChannelMembership

namespace PairSet

variable {α β : Type} [DecidableEq α] [DecidableEq β]

/-- The elements on the left that have a partner can be gathered, and as many of them are counted. -/
theorem exists_card_eq_count (set : PairSet α β) :
    ∃ paired : Finset α, (∀ a, a ∈ paired ↔ ∃ b, set.relates a b = true) ∧
      set.count = paired.card := by
  refine ⟨set.pairs.toFinset.image Prod.fst, fun a => ?_,
    count_eq_card fun a b => by rw [List.mem_toFinset, mem_pairs]⟩
  simp [mem_pairs]

/-- Whoever has a row has a partner in it. -/
theorem exists_relates_of_mem_rows {set : PairSet α β} {row : α × List β} (kept : row ∈ set.rows) :
    ∃ b ∈ row.2, set.relates row.1 b = true := by
  obtain ⟨b, listed⟩ := List.exists_mem_of_ne_nil _ (set.tidy.filled row kept).1
  refine ⟨b, listed, ?_⟩
  rw [relates, set.tidy.partners_of_mem kept]
  exact List.contains_iff_mem.2 listed

end PairSet

namespace Dealing

/-- Whether a dealing takes a connection out of the group of a channel. -/
def Parts (connection : Connection) (channel : Channel) (dealing : Dealing) : Prop :=
  dealing = .request (.leave connection channel) ∨ dealing = .close connection

/-- Whether a dealing is one of those by which groups change. -/
def regroups : Dealing → Bool
  | close _ | request (.join _ _) | request (.leave _ _) => true
  | _ => false

/-- Whether some dealings put a connection into the group of a channel and leave it there: it is
not taken out again after it was put in for the last time. -/
def Joined (connection : Connection) (channel : Channel) (dealings : List Dealing) : Prop :=
  ∃ before after, dealings = before ++ .request (.join connection channel) :: after ∧
    .request (.join connection channel) ∉ after ∧
    .request (.leave connection channel) ∉ after ∧ .close connection ∉ after

variable {connection : Connection} {channel : Channel} {dealings : List Dealing}

theorem Joined.now :
    Joined connection channel (dealings ++ [.request (.join connection channel)]) :=
  ⟨dealings, [], rfl, List.not_mem_nil, List.not_mem_nil, List.not_mem_nil⟩

/-- The last dealing decides, unless it neither puts the connection in nor takes it out. -/
theorem joined_concat_iff (dealing : Dealing) :
    Joined connection channel (dealings ++ [dealing]) ↔
      dealing = .request (.join connection channel) ∨
        (¬dealing.Parts connection channel ∧ Joined connection channel dealings) := by
  constructor
  · rintro ⟨before, after, split, lastJoin, noLeave, noClose⟩
    rcases after.eq_nil_or_concat' with rfl | ⟨after, final, rfl⟩
    · obtain ⟨-, same⟩ := List.append_inj' split rfl
      exact .inl (List.singleton_inj.1 same)
    · rw [← List.cons_append, ← List.append_assoc] at split
      obtain ⟨rfl, same⟩ := List.append_inj' split rfl
      obtain rfl := List.singleton_inj.1 same
      simp only [List.mem_append, List.mem_singleton, not_or] at lastJoin noLeave noClose
      exact .inr ⟨not_or.2 ⟨Ne.symm noLeave.2, Ne.symm noClose.2⟩,
        before, after, rfl, lastJoin.1, noLeave.1, noClose.1⟩
  · rintro (rfl | ⟨stays, before, after, rfl, lastJoin, noLeave, noClose⟩)
    · exact .now
    · obtain ⟨otherLeave, otherClose⟩ := not_or.1 stays
      by_cases joins : dealing = .request (.join connection channel)
      · rw [joins]
        exact .now
      · refine ⟨before, after ++ [dealing], by simp, ?_, ?_, ?_⟩ <;>
          simp [lastJoin, noLeave, noClose, Ne.symm joins, Ne.symm otherLeave, Ne.symm otherClose]

end Dealing

namespace Exchange

variable (exchange : Exchange)

/-- A dealing that is no joining, no leaving and no closing leaves all groups as they are. -/
theorem groups_perform_of_not_regroups {dealing : Dealing} (spares : dealing.regroups = false) :
    (dealing.perform exchange).1.groups = exchange.groups := by
  cases dealing with
  | close connection => cases spares
  | request call =>
      cases call with
      | join connection channel => cases spares
      | leave connection channel => cases spares
      | publish channel notice => rfl
      | send connection notice => rfl
  | _ => rfl

/-- What one dealing does to one membership. -/
theorem isMember_perform_iff (dealing : Dealing) (connection : Connection) (channel : Channel) :
    (dealing.perform exchange).1.groups.isMember channel connection = true ↔
      dealing = .request (.join connection channel) ∨
        (¬dealing.Parts connection channel ∧
          exchange.groups.isMember channel connection = true) := by
  by_cases spares : dealing.regroups = false
  · rw [groups_perform_of_not_regroups exchange spares]
    have stays : ¬dealing.Parts connection channel := by
      rintro (rfl | rfl) <;> cases spares
    have other : dealing ≠ .request (.join connection channel) := by
      rintro rfl
      cases spares
    simp [stays, other]
  · cases dealing with
    | close other =>
        simp [Dealing.perform, Exchange.close, Dealing.Parts, eq_comm (a := connection)]
    | request call =>
        cases call with
        | join other group =>
            simp [Dealing.perform, accept, carryOut, Dealing.Parts, eq_comm (a := connection),
              eq_comm (a := channel), and_comm]
        | leave other group =>
            simp [Dealing.perform, accept, carryOut, Dealing.Parts, eq_comm (a := connection),
              eq_comm (a := channel), and_comm]
        | _ => exact absurd rfl spares
    | _ => exact absurd rfl spares

/-- In an exchange that starts empty, the members of a channel are those who were put into its group
and left there. -/
theorem isMember_deal_iff (dealings : List Dealing) (connection : Connection) (channel : Channel) :
    (empty.deal dealings).groups.isMember channel connection = true ↔
      Dealing.Joined connection channel dealings := by
  induction dealings using List.reverseRecOn with
  | nil =>
      refine iff_of_false Bool.false_ne_true ?_
      rintro ⟨before, after, split, -⟩
      exact List.append_ne_nil_of_right_ne_nil _ (List.cons_ne_nil _ _) split.symm
  | append_singleton before dealing induction =>
      rw [deal_concat, isMember_perform_iff, induction, Dealing.joined_concat_iff]

/-- The groups of an exchange show one relation from all sides. -/
structure Regular (exchange : Exchange) : Prop where
  /-- The members of a channel are those who are in its group. -/
  mem_members_iff : ∀ connection channel,
    connection ∈ exchange.groups.members channel ↔
      exchange.groups.isMember channel connection = true
  /-- Nobody is listed twice among the members of a channel. -/
  nodup_members : ∀ channel, (exchange.groups.members channel).Nodup
  /-- The groups of a connection are those of the channels that it is in. -/
  mem_groupsOf_iff : ∀ connection channel,
    channel ∈ exchange.groups.groupsOf connection ↔
      exchange.groups.isMember channel connection = true
  /-- The groups of a connection are listed in ascending order and none twice. -/
  strict_groupsOf : ∀ connection, Ascending.Strict (exchange.groups.groupsOf connection)
  /-- A channel for which a row is kept has a member, who stands in that row. -/
  populated : ∀ row ∈ exchange.groups.membership.rows,
    ∃ connection ∈ row.2, exchange.groups.isMember row.1 connection = true
  /-- The number of groups that is shown is the number of channels that have a member. -/
  count_eq_card : ∃ populated : Finset Channel,
    (∀ channel, channel ∈ populated ↔
      ∃ connection, exchange.groups.isMember channel connection = true) ∧
    exchange.groups.count = populated.card ∧
    exchange.overview = Braced.fields "MemoryGateway"
      [("group_count", toString populated.card),
        ("open_connections", toString exchange.outboxes.openCount)] false

theorem regular : exchange.Regular where
  mem_members_iff _ _ := Groups.mem_members _ _ _
  nodup_members _ := nodup_sortedSet _
  mem_groupsOf_iff _ _ := Groups.mem_groupsOf _ _ _
  strict_groupsOf _ := strict_sortedSet _
  populated _ kept := PairSet.exists_relates_of_mem_rows kept
  count_eq_card := by
    obtain ⟨populated, mem_iff, counted⟩ := exchange.groups.membership.exists_card_eq_count
    refine ⟨populated, mem_iff, counted, ?_⟩
    rw [← counted]
    rfl

end Exchange

/-- Whatever is done with an exchange, a connection is in the group of a channel exactly if it was
put there and neither taken out nor closed since.  All views of the groups agree on that, a channel
without members is not kept, and only joining, leaving and closing change a membership. -/
theorem membership_follows_last_word (dealings : List Dealing) :
    (∀ connection channel,
      (Exchange.empty.deal dealings).groups.isMember channel connection = true ↔
        Dealing.Joined connection channel dealings) ∧
    (Exchange.empty.deal dealings).Regular ∧
    ∀ dealing : Dealing, dealing.regroups = false →
      (Exchange.empty.deal (dealings ++ [dealing])).groups =
        (Exchange.empty.deal dealings).groups := by
  refine ⟨Exchange.isMember_deal_iff dealings, Exchange.regular _, fun dealing spares => ?_⟩
  rw [Exchange.deal_concat]
  exact Exchange.groups_perform_of_not_regroups _ spares

end ChannelMembership
