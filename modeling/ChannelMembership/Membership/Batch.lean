import ChannelMembership.Membership.Operation

/-!
# Batches

A batch issues a list of operations in order, with a bound on how many are under way at once.  The
operations under way may complete in any order; whenever one completes, the next one is issued.  A
bound of zero counts as one, so a batch never stands still.
-/

namespace ChannelMembership

/-- A bound of zero counts as one. -/
def atLeastOne (bound : Nat) : Nat := if bound = 0 then 1 else bound

theorem atLeastOne_pos (bound : Nat) : 0 < atLeastOne bound := by
  unfold atLeastOne
  split <;> omega

/-- Operations waiting, under way and completed. -/
structure Batch where
  /-- Operations not yet issued, in order. -/
  waiting : List Operation
  /-- Operations issued and not yet completed, in the order in which they were issued. -/
  underWay : List Operation
  /-- What became of the completed ones. -/
  report : Report
  deriving DecidableEq

namespace Batch

/-- Issue the first operations of a list. -/
def start (bound : Nat) (report : Report) (operations : List Operation) : Batch where
  waiting := operations.drop (atLeastOne bound)
  underWay := operations.take (atLeastOne bound)
  report := report

/-- Nothing is lost and the order is kept. -/
theorem underWay_append_waiting_start (bound : Nat) (report : Report)
    (operations : List Operation) :
    (start bound report operations).underWay ++ (start bound report operations).waiting =
      operations :=
  List.take_append_drop _ _

/-- Record the completion of an operation under way and issue the next one. -/
def complete (batch : Batch) (operation : Operation) (delivery : Delivery) : Batch :=
  if operation ∈ batch.underWay then
    { waiting := batch.waiting.drop 1
      underWay := batch.underWay.erase operation ++ batch.waiting.take 1
      report := batch.report.record operation delivery }
  else batch

/-- Whether every operation has completed. -/
def isDone (batch : Batch) : Bool := batch.underWay.isEmpty

end Batch
end ChannelMembership
