import ChannelMembership.Switchboard.Pass

/-!
# Runs

A run owns the slot of its user and makes passes until nothing is parked any more.  Its outcome is
that of its last pass.  Work for a user whose slot is taken is parked there instead, and the run
that owns the slot takes it over.
-/

namespace ChannelMembership

/-- Passes of one owner of a slot. -/
structure Run where
  /-- The right to the slot. -/
  ticket : Ticket
  /-- The work of the present pass. -/
  work : Work
  /-- How far the present pass has come. -/
  pass : Pass

/-- A run under way, or its outcome. -/
inductive RunState where
  /-- The run has spots left. -/
  | active (run : Run)
  /-- The slot has been given back, or the work has been parked in it. -/
  | over (outcome : Outcome)

namespace Run

/-- When the present pass is over, go on with the parked work or give the slot back.  A pass that is
over as soon as it starts leaves no time in which anything could have been parked. -/
def advance (run : Run) (board : Switchboard) : Switchboard × RunState :=
  match run.pass.outcome? with
  | none => (board, .active run)
  | some outcome =>
    let (slots, ticket, parked) := board.slots.next run.ticket
    let board := { board with slots := slots }
    match parked with
    | none => (board, .over outcome)
    | some work =>
      let (board, pass) := Pass.start board ticket.user work
      match pass.outcome? with
      | none => (board, .active ⟨ticket, work, pass⟩)
      | some outcome => ({ board with slots := (board.slots.next ticket).1 }, .over outcome)

/-- Enter the user's slot with some work. -/
def start (board : Switchboard) (user : UserKey) (work : Work) : Switchboard × RunState :=
  match board.slots.enter user work with
  | (slots, none) => ({ board with slots := slots }, .over .coalesced)
  | (slots, some ticket) =>
    let (board, pass) := Pass.start { board with slots := slots } user work
    Run.advance ⟨ticket, work, pass⟩ board

/-- Bring the answer at a spot about and go on. -/
def perform (run : Run) (board : Switchboard) (passage : Passage) (spot : Spot) :
    Switchboard × RunState :=
  let (board, pass) := run.pass.perform board passage spot
  Run.advance { run with pass := pass } board

/-- Give up a run: its slot becomes idle, and the parked work, or else its own, is handed out. -/
def abandon (run : Run) (board : Switchboard) : Switchboard × UserKey × Work :=
  let (slots, ticket, parked) := board.slots.abandon run.ticket
  ({ board with slots := slots }, ticket.user, parked.getD run.work)

end Run

namespace Switchboard

/-- Request membership work for a user; nothing is done for a user without connections. -/
def submit (board : Switchboard) (user : UserKey) (work : Work) : Switchboard × RunState :=
  if board.presence.isOnline user then Run.start board user work
  else (board, .over .noConnections)

end Switchboard
end ChannelMembership
