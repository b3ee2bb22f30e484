import ChannelMembership.Membership.Evaluation
import ChannelMembership.Switchboard.Spot

/-!
# Passes

A pass carries out one piece of membership work for one user.  It looks once at the user's live
connections.  To reconcile, it authorises the principal and then issues, for each of these
connections, a join for every authorised channel and a leave for every other known channel.  To
revoke, it issues a leave for every known channel without asking anybody.
-/

namespace ChannelMembership

/-- How far a pass has come. -/
inductive Pass where
  /-- There was no connection to reconcile. -/
  | skipped
  /-- The principal is being authorised for these connections. -/
  | deciding (user : UserKey) (connections : List Connection) (evaluation : Evaluation)
  /-- Joins and leaves are being carried out. -/
  | reconciling (batch : Batch)
  /-- Leaves are being carried out. -/
  | revoking (batch : Batch)

namespace Pass

/-- The operations that bring connections in line with a partition. -/
def matrix (connections : List Connection) (partition : Partition) : List Operation :=
  connections.flatMap fun connection =>
    partition.authorized.map (Operation.join connection) ++
      partition.unauthorized.map (Operation.leave connection)

/-- Once all channels are decided, issue the operations. -/
def settle (board : Switchboard) : Pass → Pass
  | deciding user connections evaluation =>
    if evaluation.isDone then
      reconciling (Batch.start board.bound (Report.start user connections.length)
        (matrix connections evaluation.partition))
    else deciding user connections evaluation
  | other => other

/-- Begin a pass. -/
def start (board : Switchboard) (user : UserKey) (work : Work) : Switchboard × Pass :=
  let connections := board.presence.connections user
  match work with
  | .reconcile principal =>
    if connections.isEmpty then (board, skipped)
    else
      (board.tabulate,
        settle board (deciding user connections (Evaluation.start board.directory principal)))
  | .revoke =>
    (if connections.isEmpty then board else board.tabulate,
      revoking (Batch.start board.bound (Report.start user connections.length)
        (connections.flatMap board.leaveAll)))

/-- The outcome of the pass, once it is over. -/
def outcome? : Pass → Option Outcome
  | skipped => some .noConnections
  | deciding _ _ _ => none
  | reconciling batch => if batch.isDone then some (.applied batch.report) else none
  | revoking batch => if batch.isDone then some (.revoked batch.report) else none

/-- The spots of a pass, in the order in which they were reached. -/
def spots : Pass → List Spot
  | skipped => []
  | deciding _ _ evaluation => evaluation.undecided.map .question
  | reconciling batch => batch.underWay.map .operation
  | revoking batch => batch.underWay.map .operation

/-- What is asked at a spot. -/
def inquiry? : Pass → Spot → Option Inquiry
  | deciding _ _ evaluation, .question channel =>
    (evaluation.asked? channel).map fun guard => .guard guard channel
  | reconciling batch, .operation operation =>
    if operation ∈ batch.underWay then some (.transport operation.call) else none
  | revoking batch, .operation operation =>
    if operation ∈ batch.underWay then some (.transport operation.call) else none
  | _, _ => none

/-- Bring the answer at a spot about. -/
def perform (pass : Pass) (board : Switchboard) (passage : Passage) (spot : Spot) :
    Switchboard × Pass :=
  match pass, spot with
  | deciding user connections evaluation, .question channel =>
    (board, settle board (deciding user connections (evaluation.ask channel)))
  | reconciling batch, .operation operation =>
    let (board, batch) := batch.perform board passage operation
    (board, reconciling batch)
  | revoking batch, .operation operation =>
    let (board, batch) := batch.perform board passage operation
    (board, revoking batch)
  | pass, _ => (board, pass)

end Pass
end ChannelMembership
