import Mathlib.Data.List.Induction
import ChannelMembership.Proofs.Transport.Outbox

/-!
# Dealings with the exchange

The transport opens and closes connections, calls come in, whoever holds a receiving end takes
notices out of it or drops it, and the log is read and cleared.  Each of these is a dealing.  The
history of an exchange is the list of its occasions: each dealing together with the exchange as it
was before.
-/

namespace ChannelMembership

/-- Something that is done with the exchange. -/
inductive Dealing where
  /-- A connection is opened. -/
  | open (connection : Connection)
  /-- A connection is closed. -/
  | close (connection : Connection)
  /-- A call comes in. -/
  | request (call : Call)
  /-- The oldest notice is taken out of an outbox. -/
  | take (position : Nat)
  /-- The receiving end of an outbox is dropped. -/
  | drop (position : Nat)
  /-- The log is read and cleared. -/
  | clear
  deriving DecidableEq

namespace Dealing

/-- What a dealing answers. -/
inductive Answer where
  /-- The receiving end of the outbox at this position. -/
  | opened (position : Nat)
  /-- It was carried out. -/
  | done
  /-- What became of a call. -/
  | delivered (delivery : Delivery)
  /-- What was found in an outbox. -/
  | received (reception : Reception)
  /-- The calls in the log. -/
  | logged (calls : List Call)
  deriving DecidableEq

/-- Carry out a dealing. -/
def perform (exchange : Exchange) : Dealing → Exchange × Answer
  | «open» connection => (exchange.open connection, .opened exchange.outboxes.boxes.length)
  | close connection => (exchange.close connection, .done)
  | request call => ((exchange.accept call).1, .delivered (exchange.accept call).2)
  | take position =>
    ({ exchange with outboxes := (exchange.outboxes.take position).1 },
      .received (exchange.outboxes.take position).2)
  | drop position => ({ exchange with outboxes := exchange.outboxes.drop position }, .done)
  | clear => (exchange.clearLog, .logged exchange.log)

/-- Whether a connection gets another outbox, or none any more. -/
def renews (connection : Connection) : Dealing → Bool
  | «open» other => other = connection
  | close other => other = connection
  | _ => false

end Dealing

/-- A dealing, and the exchange at the moment at which it takes place. -/
structure Occasion where
  /-- The exchange before the dealing. -/
  exchange : Exchange
  /-- The dealing. -/
  dealing : Dealing

namespace Occasion

/-- The exchange after the dealing. -/
def next (occasion : Occasion) : Exchange := (occasion.dealing.perform occasion.exchange).1

/-- What the dealing answers. -/
def answer (occasion : Occasion) : Dealing.Answer :=
  (occasion.dealing.perform occasion.exchange).2

end Occasion

namespace Exchange

/-- The exchange after some dealings. -/
def deal (exchange : Exchange) (dealings : List Dealing) : Exchange :=
  dealings.foldl (fun exchange dealing => (dealing.perform exchange).1) exchange

/-- The occasions of some dealings. -/
def occasions : Exchange → List Dealing → List Occasion
  | _, [] => []
  | exchange, dealing :: rest =>
    ⟨exchange, dealing⟩ :: (dealing.perform exchange).1.occasions rest

/-- What some dealings answer. -/
def answers (exchange : Exchange) (dealings : List Dealing) : List Dealing.Answer :=
  (exchange.occasions dealings).map Occasion.answer

@[simp]
theorem deal_nil (exchange : Exchange) : exchange.deal [] = exchange := rfl

@[simp]
theorem deal_cons (exchange : Exchange) (dealing : Dealing) (rest : List Dealing) :
    exchange.deal (dealing :: rest) = (dealing.perform exchange).1.deal rest := rfl

theorem deal_append (exchange : Exchange) (before after : List Dealing) :
    exchange.deal (before ++ after) = (exchange.deal before).deal after :=
  List.foldl_append

theorem deal_concat (exchange : Exchange) (before : List Dealing) (dealing : Dealing) :
    exchange.deal (before ++ [dealing]) = (dealing.perform (exchange.deal before)).1 :=
  exchange.deal_append before [dealing]

@[simp]
theorem occasions_nil (exchange : Exchange) : exchange.occasions [] = [] := rfl

@[simp]
theorem occasions_cons (exchange : Exchange) (dealing : Dealing) (rest : List Dealing) :
    exchange.occasions (dealing :: rest) =
      ⟨exchange, dealing⟩ :: (dealing.perform exchange).1.occasions rest := rfl

theorem occasions_append (exchange : Exchange) (before after : List Dealing) :
    exchange.occasions (before ++ after) =
      exchange.occasions before ++ (exchange.deal before).occasions after := by
  induction before generalizing exchange with
  | nil => rfl
  | cons dealing rest induction => simp [induction]

/-- No dealing lets two connections share an outbox. -/
theorem separate_perform {exchange : Exchange} (separate : exchange.outboxes.Separate)
    (dealing : Dealing) : (dealing.perform exchange).1.outboxes.Separate := by
  cases dealing with
  | «open» connection => exact separate.open connection
  | close connection => exact separate.close connection
  | request call => exact separate_accept separate call
  | take position => exact separate.take position
  | drop position => exact separate.drop position
  | clear => exact separate

theorem separate_deal {exchange : Exchange} (separate : exchange.outboxes.Separate)
    (dealings : List Dealing) : (exchange.deal dealings).outboxes.Separate := by
  induction dealings generalizing exchange with
  | nil => exact separate
  | cons dealing rest induction => exact induction (separate_perform separate dealing)

/-- A connection keeps its current outbox until it is opened anew or closed. -/
theorem currentOf_perform (exchange : Exchange) (dealing : Dealing) (connection : Connection) :
    (dealing.perform exchange).1.outboxes.currentOf connection =
      match dealing with
      | .open other =>
        if connection = other then some exchange.outboxes.boxes.length
        else exchange.outboxes.currentOf connection
      | .close other =>
        if connection = other then none else exchange.outboxes.currentOf connection
      | _ => exchange.outboxes.currentOf connection := by
  cases dealing with
  | «open» other => exact Outboxes.currentOf_open _ _ _
  | close other => exact Outboxes.currentOf_close _ _ _
  | request call => exact congrArg (List.lookup connection) (exchange.current_accept call)
  | take position => exact congrArg (List.lookup connection) (Outboxes.current_take _ _)
  | drop position => rfl
  | clear => rfl

/-- An outbox is added when a connection is opened, and none is ever taken away. -/
theorem length_perform (exchange : Exchange) (dealing : Dealing) :
    (dealing.perform exchange).1.outboxes.boxes.length =
      match dealing with
      | .open _ => exchange.outboxes.boxes.length + 1
      | _ => exchange.outboxes.boxes.length := by
  cases dealing with
  | «open» connection => exact Outboxes.length_open _ _
  | close connection => exact Outboxes.length_close _ _
  | request call =>
      cases call with
      | join connection channel => rfl
      | leave connection channel => rfl
      | send connection notice => exact Outboxes.length_deliver _ _ _
      | publish channel notice => exact Outboxes.length_deliverAll _ _ _
  | take position => exact Outboxes.length_take _ _
  | drop position => exact List.length_modify _ _ _
  | clear => rfl

/-- The receiving ends that were handed out are those of outboxes that exist. -/
theorem lt_of_opened {dealings : List Dealing} {position : Nat}
    (opened : .opened position ∈ empty.answers dealings) :
    position < (empty.deal dealings).outboxes.boxes.length := by
  induction dealings using List.reverseRecOn with
  | nil => cases opened
  | append_singleton before dealing induction =>
      rw [deal_concat, length_perform]
      rw [answers, occasions_append, List.map_append, List.mem_append] at opened
      rcases opened with earlier | now
      · have inside := induction earlier
        cases dealing <;> simp only <;> omega
      · have answer := List.mem_singleton.1 now
        cases dealing with
        | «open» connection =>
            cases answer
            exact Nat.lt_succ_self _
        | _ => cases answer

/-- The current outbox of a connection is the one with which it was last opened, unless it was
closed afterwards. -/
theorem exists_open_of_currentOf {dealings : List Dealing} {connection : Connection}
    {position : Nat}
    (current : (empty.deal dealings).outboxes.currentOf connection = some position) :
    ∃ before after, dealings = before ++ .open connection :: after ∧
      position = (empty.deal before).outboxes.boxes.length ∧
      after.any (Dealing.renews connection) = false := by
  induction dealings using List.reverseRecOn with
  | nil => cases current
  | append_singleton before dealing induction =>
      rw [deal_concat, currentOf_perform] at current
      have earlier
          (same : (empty.deal before).outboxes.currentOf connection = some position)
          (silent : dealing.renews connection = false) :
          ∃ first after, before ++ [dealing] = first ++ .open connection :: after ∧
            position = (empty.deal first).outboxes.boxes.length ∧
            after.any (Dealing.renews connection) = false := by
        obtain ⟨first, after, rfl, opened, quiet⟩ := induction same
        exact ⟨first, after ++ [dealing], by simp, opened, by simp [quiet, silent]⟩
      cases dealing with
      | «open» other =>
          by_cases mine : connection = other
          · subst mine
            simp only [if_true] at current
            exact ⟨before, [], rfl, (Option.some.inj current).symm, rfl⟩
          · simp only [if_neg mine] at current
            exact earlier current (by simp [Dealing.renews, Ne.symm mine])
      | close other =>
          by_cases mine : connection = other
          · simp [mine] at current
          · simp only [if_neg mine] at current
            exact earlier current (by simp [Dealing.renews, Ne.symm mine])
      | request call => exact earlier current rfl
      | take other => exact earlier current rfl
      | drop other => exact earlier current rfl
      | clear => exact earlier current rfl

end Exchange
end ChannelMembership
