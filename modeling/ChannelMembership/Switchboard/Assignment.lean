import ChannelMembership.Membership.Evaluation
import ChannelMembership.Switchboard.Spot

/-!
# Assignments

A new connection joins every channel its principal is authorised for.  An assignment never leaves a
channel and does not use the user's slot.
-/

namespace ChannelMembership

/-- How far the first assignment of a connection has come. -/
inductive Assignment where
  /-- The principal is being authorised. -/
  | deciding (user : UserKey) (connection : Connection) (evaluation : Evaluation)
  /-- Joins are being carried out. -/
  | joining (connection : Connection) (batch : Batch)

namespace Assignment

/-- Once all channels are decided, issue the joins. -/
def settle (board : Switchboard) : Assignment → Assignment
  | deciding user connection evaluation =>
    if evaluation.isDone then
      joining connection (Batch.start board.bound (Report.start user 1)
        (evaluation.partition.authorized.map (Operation.join connection)))
    else deciding user connection evaluation
  | other => other

/-- Begin an assignment. -/
def start (board : Switchboard) (user : UserKey) (principal : Principal)
    (connection : Connection) : Switchboard × Assignment :=
  (board.tabulate,
    settle board (deciding user connection (Evaluation.start board.directory principal)))

/-- The connection that is being assigned. -/
def connection : Assignment → Connection
  | deciding _ connection _ => connection
  | joining connection _ => connection

/-- The report, once every join has completed. -/
def report? : Assignment → Option Report
  | deciding _ _ _ => none
  | joining _ batch => if batch.isDone then some batch.report else none

/-- The spots of an assignment, in the order in which they were reached. -/
def spots : Assignment → List Spot
  | deciding _ _ evaluation => evaluation.undecided.map .question
  | joining _ batch => batch.underWay.map .operation

/-- What is asked at a spot. -/
def inquiry? : Assignment → Spot → Option Inquiry
  | deciding _ _ evaluation, .question channel =>
    (evaluation.asked? channel).map fun guard => .guard guard channel
  | joining _ batch, .operation operation =>
    if operation ∈ batch.underWay then some (.transport operation.call) else none
  | _, _ => none

/-- Bring the answer at a spot about. -/
def perform (assignment : Assignment) (board : Switchboard) (passage : Passage) (spot : Spot) :
    Switchboard × Assignment :=
  match assignment, spot with
  | deciding user connection evaluation, .question channel =>
    (board, settle board (deciding user connection (evaluation.ask channel)))
  | joining connection batch, .operation operation =>
    let (board, batch) := batch.perform board passage operation
    (board, joining connection batch)
  | assignment, _ => (board, assignment)

end Assignment
end ChannelMembership
