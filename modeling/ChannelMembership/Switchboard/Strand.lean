import ChannelMembership.Switchboard.Assignment
import ChannelMembership.Switchboard.Circular
import ChannelMembership.Switchboard.Run

/-!
# Strands

A request under way is a strand.  A permission change has one strand for each user it concerns;
every other request is a single strand.  Between two answers from outside a strand does all its
work at once, so strands are interleaved only at their spots.

Every failure leaves memberships narrower: a connection that is not set up in time leaves every
known channel, and a user whose principal cannot be looked up loses every membership.
-/

namespace ChannelMembership

/-- How a strand ended. -/
inductive Conclusion where
  /-- A connection was registered and joined its channels. -/
  | connected (report : Report)
  /-- A connection was not set up in time and left every known channel. -/
  | failedClosed (report : Report)
  /-- A connection joined its channels. -/
  | assigned (report : Report)
  /-- Membership work for a user was done, taken over or not needed. -/
  | settled (outcome : Outcome)
  /-- A connection left every known channel. -/
  | revoked (report : Report)
  /-- A notice was published. -/
  | routed
  /-- A notice was handed to the connections of a user. -/
  | circulated (report : CircularReport)
  /-- Memberships could not be determined. -/
  | undetermined (error : MembershipError)
  /-- A session was refused, or its user could not be looked up. -/
  | refused (error : SessionError)
  /-- A notice was not published. -/
  | unrouted (error : RoutingError)
  deriving DecidableEq

/-- A request under way. -/
inductive Strand where
  /-- A user concerned by a permission change is waiting to be looked at. -/
  | queued (user : UserKey)
  /-- The account store is being asked about a user. -/
  | lookingUp (user : UserKey)
  /-- A run is under way; a failed look-up is reported when it is over. -/
  | running (run : Run) (failure : Option LookupError)
  /-- A connection is being assigned its channels, under the time limit of the setup or not. -/
  | assigning (user : UserKey) (assignment : Assignment) (limited : Bool)
  /-- A connection is leaving every known channel, because it was not set up in time or not. -/
  | leaving (batch : Batch) (expired : Bool)
  /-- A notice is being published. -/
  | routing (notice : Notice)
  /-- A notice is being handed to the connections of a user. -/
  | circulating (circular : Circular)
  /-- The strand has ended. -/
  | ended (conclusion : Conclusion)
  /-- The strand was given up by whoever made the request. -/
  | dropped

namespace Strand

/-- A strand that goes on as a run does. -/
def ofRunState (failure : Option LookupError) : RunState → Strand
  | .active run => running run failure
  | .over outcome =>
    match failure with
    | none => ended (.settled outcome)
    | some error => ended (.refused (.lookup error))

/-- A strand that goes on as an assignment does. -/
def ofAssignment (user : UserKey) (assignment : Assignment) (limited : Bool) : Strand :=
  match assignment.report? with
  | none => assigning user assignment limited
  | some report => ended (if limited then .connected report else .assigned report)

/-- A strand that goes on as a batch of leaves does. -/
def ofLeaves (batch : Batch) (expired : Bool) : Strand :=
  if batch.isDone then
    ended (if expired then .failedClosed batch.report else .revoked batch.report)
  else leaving batch expired

/-- A strand that goes on as a circular does. -/
def ofCircular (circular : Circular) : Strand :=
  if circular.pending.isEmpty then ended (.circulated circular.report) else circulating circular

/-- Let one connection leave every known channel. -/
def leaveAll (board : Switchboard) (user : UserKey) (connection : Connection) (expired : Bool) :
    Switchboard × Strand :=
  (board.tabulate,
    ofLeaves (Batch.start board.bound (Report.start user 1) (board.leaveAll connection)) expired)

/-- Request membership work; a failed look-up is reported when it is over. -/
def submit (board : Switchboard) (user : UserKey) (work : Work) (failure : Option LookupError) :
    Switchboard × Strand :=
  let (board, state) := board.submit user work
  (board, ofRunState failure state)

/-- Look at a user concerned by a permission change; nobody is asked about a user who is offline. -/
def visit (board : Switchboard) (user : UserKey) : Strand :=
  if board.presence.isOnline user then lookingUp user else ended (.settled .noConnections)

/-- Go on with what the account store knows about a user.  Only a principal of that very user is
reconciled; in every other case all memberships are revoked. -/
def resolve (board : Switchboard) (user : UserKey) : Switchboard × Strand :=
  match board.accounts user with
  | .known principal =>
    if principal.user = some user then submit board user (.reconcile principal) none
    else submit board user .revoke (some (LookupError.stranger user))
  | .missing => submit board user .revoke none
  | .failing reason => submit board user .revoke (some ⟨user, reason⟩)
  | .erring error => submit board user .revoke (some error)

/-- Whether the strand has nothing left to do. -/
def isOver : Strand → Bool
  | ended _ => true
  | dropped => true
  | _ => false

/-- How the strand ended. -/
def conclusion? : Strand → Option Conclusion
  | ended conclusion => some conclusion
  | _ => none

/-- The spots of a strand, in the order in which they were reached. -/
def spots : Strand → List Spot
  | lookingUp _ => [.account]
  | running run _ => run.pass.spots
  | assigning _ assignment _ => assignment.spots
  | leaving batch _ => batch.underWay.map .operation
  | routing _ => [.publication]
  | circulating circular => circular.pending.map .copy
  | _ => []

/-- What is asked at a spot. -/
def inquiry? : Strand → Spot → Option Inquiry
  | lookingUp user, .account => some (.account user)
  | running run _, spot => run.pass.inquiry? spot
  | assigning _ assignment _, spot => assignment.inquiry? spot
  | leaving batch _, .operation operation =>
    if operation ∈ batch.underWay then some (.transport operation.call) else none
  | routing notice, .publication => some (.transport (.publish notice.source notice))
  | circulating circular, .copy connection =>
    if connection ∈ circular.pending then some (.transport (.send connection circular.notice))
    else none
  | _, _ => none

/-- Bring the answer at a spot about and go on to the next spots. -/
def perform (strand : Strand) (board : Switchboard) (passage : Passage) (spot : Spot) :
    Switchboard × Strand :=
  match strand, spot with
  | lookingUp user, .account => resolve board user
  | running run failure, spot =>
    let (board, state) := run.perform board passage spot
    (board, ofRunState failure state)
  | assigning user assignment limited, spot =>
    let (board, assignment) := assignment.perform board passage spot
    (board, ofAssignment user assignment limited)
  | leaving batch expired, .operation operation =>
    let (board, batch) := batch.perform board passage operation
    (board, ofLeaves batch expired)
  | routing notice, .publication =>
    let (board, delivery) := board.call passage (.publish notice.source notice)
    match delivery with
    | .ok () => (board, ended .routed)
    | .error error => (board, ended (.unrouted (.transport error)))
  | circulating circular, .copy connection =>
    let (board, circular) := circular.perform board passage connection
    (board, ofCircular circular)
  | strand, _ => (board, strand)

/-- The time for the setup of a connection has run out: the assignment is given up, and the
connection leaves every known channel. -/
def expire (strand : Strand) (board : Switchboard) : Switchboard × Strand :=
  match strand with
  | assigning user assignment true => leaveAll board user assignment.connection true
  | other => (board, other)

/-- Give a strand up.  A run hands out the work that is left undone. -/
def abandon (strand : Strand) (board : Switchboard) :
    Switchboard × Strand × Option (UserKey × Work) :=
  match strand with
  | running run _ =>
    let (board, user, work) := run.abandon board
    (board, dropped, some (user, work))
  | ended conclusion => (board, ended conclusion, none)
  | _ => (board, dropped, none)

end Strand
end ChannelMembership
