import ChannelMembership.Switchboard.Spot

/-!
# Circulars

A notice for one user goes to each of the user's live connections, whatever groups they are in.
Connections that cannot be reached are listed; they do not keep the others from being served.
-/

namespace ChannelMembership

/-- What became of a notice for one user. -/
structure CircularReport where
  /-- The connections that got a copy. -/
  delivered : List Connection
  /-- The connections that could not be reached, with the reason. -/
  failures : List (Connection × TransportError)
  deriving DecidableEq

/-- A notice on its way to the connections of one user. -/
structure Circular where
  /-- The notice. -/
  notice : Notice
  /-- Connections not yet served. -/
  pending : List Connection
  /-- What became of the others. -/
  report : CircularReport

namespace Circular

/-- Address a notice to all live connections of a user. -/
def start (board : Switchboard) (notice : Notice) (user : UserKey) : Circular :=
  ⟨notice, board.presence.connections user, ⟨[], []⟩⟩

/-- Hand a connection its copy. -/
def perform (circular : Circular) (board : Switchboard) (passage : Passage)
    (connection : Connection) : Switchboard × Circular :=
  if connection ∈ circular.pending then
    let (board, delivery) := board.call passage (.send connection circular.notice)
    let report :=
      match delivery with
      | .ok () =>
        { circular.report with delivered := circular.report.delivered ++ [connection] }
      | .error error =>
        { circular.report with failures := circular.report.failures ++ [(connection, error)] }
    (board, { circular with pending := circular.pending.erase connection, report := report })
  else (board, circular)

end Circular

namespace CircularReport

/-- The report with its lists in the order of the connections. -/
def sorted (report : CircularReport) : CircularReport where
  delivered := Ascending.sort (fun a b => a ≤ b) report.delivered
  failures := Ascending.sort (fun a b => a.1 ≤ b.1) report.failures

end CircularReport
end ChannelMembership
