import ChannelMembership.Switchboard.Strand

/-!
# Requests

What can be asked of the switchboard, and the strands with which a request begins.
-/

namespace ChannelMembership

/-- Whom a permission change concerns. -/
inductive Audience where
  /-- These users, in any order and possibly with repetitions. -/
  | listed (users : List UserKey)
  /-- Everybody who is online when the change is taken up. -/
  | everybody

namespace Audience

/-- The users concerned, each once and in key order. -/
def members (audience : Audience) (presence : Presence) : List UserKey :=
  match audience with
  | listed users => sortedSet users
  | everybody => presence.users

end Audience

/-- A request. -/
inductive Request where
  /-- Register a connection and join it to its channels. -/
  | connect (principal : Principal) (connection : Connection)
  /-- Bring the memberships of all users concerned by a permission change up to date. -/
  | change (audience : Audience)
  /-- Join a connection to its channels. -/
  | assign (principal : Principal) (connection : Connection)
  /-- Reconcile the memberships of a principal's user. -/
  | refresh (principal : Principal)
  /-- Revoke all memberships of a user. -/
  | revokeUser (user : UserKey)
  /-- Revoke all memberships of one connection. -/
  | revokeConnection (user : UserKey) (connection : Connection)
  /-- Publish a notice on its channel. -/
  | route (notice : Notice)
  /-- Hand a notice to all connections of a user. -/
  | circulate (notice : Notice) (user : UserKey)

namespace Request

/-- The strands of a request as it is made. -/
def begin (request : Request) (board : Switchboard) : Switchboard × List Strand :=
  match request with
  | connect principal connection =>
    match principal.user with
    | none => (board, [.ended (.refused (.unauthenticated connection))])
    | some user =>
      let registered := { board with presence := board.presence.add user connection }
      let (board, assignment) := Assignment.start registered user principal connection
      (board, [Strand.ofAssignment user assignment true])
  | change audience => (board, (audience.members board.presence).map .queued)
  | assign principal connection =>
    match principal.user with
    | none => (board, [.ended (.undetermined .unresolved)])
    | some user =>
      let (board, assignment) := Assignment.start board user principal connection
      (board, [Strand.ofAssignment user assignment false])
  | refresh principal =>
    match principal.user with
    | none => (board, [.ended (.undetermined .unresolved)])
    | some user =>
      let (board, strand) := Strand.submit board user (.reconcile principal) none
      (board, [strand])
  | revokeUser user =>
    let (board, strand) := Strand.submit board user .revoke none
    (board, [strand])
  | revokeConnection user connection =>
    let (board, strand) := Strand.leaveAll board user connection false
    (board, [strand])
  | route notice =>
    let board := board.tabulate
    if board.directory.governs notice.source then (board, [.routing notice])
    else (board, [.ended (.unrouted (.ungoverned notice.source))])
  | circulate notice user => (board, [Strand.ofCircular (Circular.start board notice user)])

end Request

end ChannelMembership
