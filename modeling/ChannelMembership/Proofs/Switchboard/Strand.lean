import ChannelMembership.Proofs.Switchboard.Run
import ChannelMembership.Switchboard.Request

/-!
# What strands leave alone

A strand that goes on changes the slots, the link and the table of channels, and nothing else.  A
membership changes only by what is attempted at the spot, and slots change only by runs.
-/

namespace ChannelMembership

/-- The work that the account store's answer about a user calls for, and the failure to be reported
when it is done. -/
def Account.demand (user : UserKey) : Account → Work × Option LookupError
  | .known principal =>
    if principal.user = some user then (.reconcile principal, none)
    else (.revoke, some (LookupError.stranger user))
  | .missing => (.revoke, none)
  | .failing reason => (.revoke, some ⟨user, reason⟩)
  | .erring error => (.revoke, some error)

namespace Switchboard

theorem groups_call_publish (board : Switchboard) (passage : Passage) (channel : Channel)
    (notice : Notice) :
    (board.call passage (.publish channel notice)).1.groups = board.groups := by
  cases passage with
  | blocked error => rfl
  | through =>
      cases interference : board.link.interference with
      | none => simp [call, Link.request, interference, Link.direct, Exchange.accept,
          Exchange.carryOut]
      | some rules =>
          cases struck : rules.draw.2 <;>
            simp [call, Link.request, interference, struck, Link.direct, Exchange.accept,
              Exchange.carryOut]

theorem groups_call_send (board : Switchboard) (passage : Passage) (connection : Connection)
    (notice : Notice) :
    (board.call passage (.send connection notice)).1.groups = board.groups := by
  cases passage with
  | blocked error => rfl
  | through =>
      cases interference : board.link.interference with
      | none => simp [call, Link.request, interference, Link.direct, Exchange.accept,
          Exchange.carryOut]
      | some rules =>
          cases struck : rules.draw.2 <;>
            simp [call, Link.request, interference, struck, Link.direct, Exchange.accept,
              Exchange.carryOut]

theorem submit_board (board : Switchboard) (user : UserKey) (work : Work) :
    (board.submit user work).1 =
      { board with
        slots := (board.submit user work).1.slots
        tabulated := (board.submit user work).1.tabulated } := by
  unfold submit
  split
  · rw [Run.start_board]
  · rfl

end Switchboard

namespace Assignment

theorem perform_board (assignment : Assignment) (board : Switchboard) (passage : Passage)
    (spot : Spot) :
    (assignment.perform board passage spot).1 =
      { board with link := (assignment.perform board passage spot).1.link } := by
  cases assignment <;> cases spot <;>
    first
    | rfl
    | exact Batch.perform_board _ board passage _

theorem groups_perform (assignment : Assignment) (board : Switchboard) (passage : Passage)
    (spot : Spot) :
    (assignment.perform board passage spot).1.groups =
      board.groups.afterAttempt (board.attempt? passage spot (assignment.inquiry? spot)) := by
  cases assignment <;> cases spot <;>
    first
    | rfl
    | exact Batch.groups_perform _ board passage _

end Assignment

namespace Circular

theorem perform_board (circular : Circular) (board : Switchboard) (passage : Passage)
    (connection : Connection) :
    (circular.perform board passage connection).1 =
      { board with link := (circular.perform board passage connection).1.link } := by
  unfold perform
  split
  · exact board.call_eq passage _
  · rfl

theorem groups_perform (circular : Circular) (board : Switchboard) (passage : Passage)
    (connection : Connection) :
    (circular.perform board passage connection).1.groups = board.groups := by
  unfold perform
  split
  · exact board.groups_call_send passage connection circular.notice
  · rfl

end Circular

namespace Strand

/-- The user whose run the strand is. -/
def runner? : Strand → Option UserKey
  | running run _ => some run.ticket.user
  | _ => none

@[simp]
theorem runner?_running (run : Run) (failure : Option LookupError) :
    (running run failure).runner? = some run.ticket.user := rfl

@[simp]
theorem runner?_ended (conclusion : Conclusion) : (ended conclusion).runner? = none := rfl

@[simp]
theorem runner?_routing (notice : Notice) : (routing notice).runner? = none := rfl

@[simp]
theorem runner?_ofAssignment (user : UserKey) (assignment : Assignment) (limited : Bool) :
    (ofAssignment user assignment limited).runner? = none := by
  unfold ofAssignment
  split <;> rfl

@[simp]
theorem runner?_ofLeaves (batch : Batch) (expired : Bool) :
    (ofLeaves batch expired).runner? = none := by
  unfold ofLeaves
  split <;> rfl

@[simp]
theorem runner?_ofCircular (circular : Circular) : (ofCircular circular).runner? = none := by
  unfold ofCircular
  split <;> rfl

theorem ofRunState_over (failure : Option LookupError) (outcome : Outcome) :
    (ofRunState failure (.over outcome)).isOver = true := by
  cases failure <;> rfl

theorem submit_eq (board : Switchboard) (user : UserKey) (work : Work)
    (failure : Option LookupError) :
    submit board user work failure =
      ((board.submit user work).1, ofRunState failure (board.submit user work).2) := rfl

/-- What the account store knows about a user is turned into a request for membership work. -/
theorem resolve_eq (board : Switchboard) (user : UserKey) :
    resolve board user =
      submit board user ((board.accounts user).demand user).1
        ((board.accounts user).demand user).2 := by
  unfold resolve
  cases board.accounts user with
  | missing => rfl
  | failing reason => rfl
  | erring error => rfl
  | known principal =>
      by_cases same : principal.user = some user <;> simp [Account.demand, same]

theorem resolve_board (board : Switchboard) (user : UserKey) :
    (resolve board user).1 =
      { board with
        slots := (resolve board user).1.slots
        tabulated := (resolve board user).1.tabulated } := by
  rw [resolve_eq, submit_eq]
  exact board.submit_board user _

theorem perform_board (strand : Strand) (board : Switchboard) (passage : Passage) (spot : Spot) :
    (strand.perform board passage spot).1 =
      { board with
        slots := (strand.perform board passage spot).1.slots
        tabulated := (strand.perform board passage spot).1.tabulated
        link := (strand.perform board passage spot).1.link } := by
  cases strand with
  | queued user => rfl
  | ended conclusion => rfl
  | dropped => rfl
  | lookingUp user =>
      cases spot with
      | account =>
          simp only [perform]
          rw [resolve_board]
      | _ => rfl
  | running run failure =>
      simp only [perform]
      rw [Run.perform_board]
  | assigning user assignment limited =>
      simp only [perform]
      rw [Assignment.perform_board]
  | leaving batch expired =>
      cases spot with
      | operation operation =>
          simp only [perform]
          rw [Batch.perform_board]
      | _ => rfl
  | routing notice =>
      cases spot with
      | publication =>
          simp only [perform]
          rw [Switchboard.call_eq]
          split <;> rfl
      | _ => rfl
  | circulating circular =>
      cases spot with
      | copy connection =>
          simp only [perform]
          rw [Circular.perform_board]
      | _ => rfl

/-- Only what is attempted at the spot changes a membership. -/
theorem groups_perform (strand : Strand) (board : Switchboard) (passage : Passage) (spot : Spot) :
    (strand.perform board passage spot).1.groups =
      board.groups.afterAttempt (board.attempt? passage spot (strand.inquiry? spot)) := by
  cases strand with
  | queued user => simp [perform, inquiry?, Groups.afterAttempt]
  | ended conclusion => simp [perform, inquiry?, Groups.afterAttempt]
  | dropped => simp [perform, inquiry?, Groups.afterAttempt]
  | lookingUp user =>
      cases spot with
      | account =>
          simp only [perform]
          rw [resolve_board]
          rfl
      | _ => rfl
  | running run failure => exact run.groups_perform board passage spot
  | assigning user assignment limited => exact assignment.groups_perform board passage spot
  | leaving batch expired =>
      cases spot with
      | operation operation => exact batch.groups_perform board passage operation
      | _ => rfl
  | routing notice =>
      cases spot with
      | publication =>
          have same := board.groups_call_publish passage notice.source notice
          simp only [perform]
          split <;> exact same
      | _ => rfl
  | circulating circular =>
      cases spot with
      | copy connection => exact circular.groups_perform board passage connection
      | _ => rfl

/-- Slots are left alone by strands that neither are runs nor look a user up. -/
theorem slots_perform {strand : Strand} (board : Switchboard) (passage : Passage) (spot : Spot)
    (idle : strand.runner? = none) (known : ∀ user, strand ≠ .lookingUp user) :
    (strand.perform board passage spot).1.slots = board.slots := by
  cases strand with
  | queued user => rfl
  | ended conclusion => rfl
  | dropped => rfl
  | lookingUp user => exact absurd rfl (known user)
  | running run failure => cases idle
  | assigning user assignment limited =>
      simp only [perform]
      rw [Assignment.perform_board]
  | leaving batch expired =>
      cases spot with
      | operation operation =>
          simp only [perform]
          rw [Batch.perform_board]
      | _ => rfl
  | routing notice =>
      cases spot with
      | publication =>
          simp only [perform]
          rw [Switchboard.call_eq]
          split <;> rfl
      | _ => rfl
  | circulating circular =>
      cases spot with
      | copy connection =>
          simp only [perform]
          rw [Circular.perform_board]
      | _ => rfl

/-- A strand that is no run and looks nobody up does not become a run. -/
theorem runner?_perform {strand : Strand} (board : Switchboard) (passage : Passage) (spot : Spot)
    (idle : strand.runner? = none) (known : ∀ user, strand ≠ .lookingUp user) :
    (strand.perform board passage spot).2.runner? = none := by
  cases strand with
  | queued user => rfl
  | ended conclusion => rfl
  | dropped => rfl
  | lookingUp user => exact absurd rfl (known user)
  | running run failure => cases idle
  | assigning user assignment limited => simp [perform]
  | leaving batch expired =>
      cases spot with
      | operation operation => exact runner?_ofLeaves _ _
      | _ => rfl
  | routing notice =>
      cases spot with
      | publication =>
          simp only [perform]
          split <;> rfl
      | _ => rfl
  | circulating circular =>
      cases spot with
      | copy connection => exact runner?_ofCircular _
      | _ => rfl

theorem expire_board (strand : Strand) (board : Switchboard) :
    (strand.expire board).1 = { board with tabulated := (strand.expire board).1.tabulated } := by
  unfold expire
  split <;> rfl

theorem runner?_expire (strand : Strand) (board : Switchboard) :
    (strand.expire board).2.runner? = strand.runner? := by
  unfold expire
  split
  · exact runner?_ofLeaves _ _
  · rfl

theorem presence_perform (strand : Strand) (board : Switchboard) (passage : Passage)
    (spot : Spot) : (strand.perform board passage spot).1.presence = board.presence := by
  rw [perform_board]

theorem directory_perform (strand : Strand) (board : Switchboard) (passage : Passage)
    (spot : Spot) : (strand.perform board passage spot).1.directory = board.directory := by
  rw [perform_board]

/-- A strand that is over does not go on. -/
theorem perform_of_isOver {strand : Strand} (finished : strand.isOver = true)
    (board : Switchboard) (passage : Passage) (spot : Spot) :
    strand.perform board passage spot = (board, strand) := by
  cases strand <;> first | rfl | cases finished

theorem expire_of_isOver {strand : Strand} (finished : strand.isOver = true)
    (board : Switchboard) : strand.expire board = (board, strand) := by
  cases strand <;> first | rfl | cases finished

/-- At a strand that is over nothing is asked. -/
theorem inquiry?_of_isOver {strand : Strand} (finished : strand.isOver = true) (spot : Spot) :
    strand.inquiry? spot = none := by
  cases strand <;> first | rfl | cases finished

/-- A strand that is given up is over. -/
theorem isOver_abandon (strand : Strand) (board : Switchboard) :
    (strand.abandon board).2.1.isOver = true := by
  cases strand <;> rfl

theorem abandon_board (strand : Strand) (board : Switchboard) :
    (strand.abandon board).1 = { board with slots := (strand.abandon board).1.slots } := by
  cases strand <;> rfl

end Strand

namespace Request

theorem begin_board (request : Request) (board : Switchboard) :
    (request.begin board).1 =
      { board with
        slots := (request.begin board).1.slots
        tabulated := (request.begin board).1.tabulated
        presence := (request.begin board).1.presence } := by
  cases request with
  | connect principal connection => simp only [begin]; split <;> rfl
  | change audience => rfl
  | assign principal connection => simp only [begin]; split <;> rfl
  | refresh principal =>
      simp only [begin]
      split
      · rfl
      · rw [Strand.submit_eq, Switchboard.submit_board]
  | revokeUser user =>
      simp only [begin]
      rw [Strand.submit_eq, Switchboard.submit_board]
  | revokeConnection user connection => rfl
  | route notice => simp only [begin]; split <;> rfl
  | circulate notice user => rfl

/-- Only the connection of a user who is known is registered. -/
theorem presence_begin (request : Request) (board : Switchboard) :
    (request.begin board).1.presence =
      match request with
      | .connect ⟨some user, _⟩ connection => board.presence.add user connection
      | _ => board.presence := by
  cases request with
  | connect principal connection =>
      obtain ⟨user, claims⟩ := principal
      cases user <;> rfl
  | change audience => rfl
  | assign principal connection => simp only [begin]; split <;> rfl
  | refresh principal =>
      simp only [begin]
      split
      · rfl
      · rw [Strand.submit_eq, Switchboard.submit_board]
  | revokeUser user =>
      simp only [begin]
      rw [Strand.submit_eq, Switchboard.submit_board]
  | revokeConnection user connection => rfl
  | route notice => simp only [begin]; split <;> rfl
  | circulate notice user => rfl

end Request
end ChannelMembership
