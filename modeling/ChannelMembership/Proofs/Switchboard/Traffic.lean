import ChannelMembership.Proofs.Switchboard.Moment
import ChannelMembership.Proofs.Transport.Link

/-!
# Traffic on the link

An event sends at most one call over the link, or it is the transport itself that opens or closes a
connection or hands notices over.  A call that is blocked on the way or struck by the interference
does not reach the exchange.
-/

namespace ChannelMembership

namespace Link

/-- Why a call does not reach the exchange: it fails on the way, or the interference strikes. -/
def blocked? (link : Link) (passage : Passage) (call : Call) : Option TransportError :=
  match passage with
  | .blocked error => some error
  | .through =>
    link.interference.bind fun interference =>
      if interference.draw.2 then some (Interference.failure call) else none

/-- The interference after a call; it decides about the call if it gets that far. -/
def drawn (link : Link) : Passage → Option Interference
  | .blocked _ => link.interference
  | .through => link.interference.map fun interference => interference.draw.1

/-- What can happen on the link at one event. -/
inductive Moves (link : Link) : Link → Prop
  /-- Nothing happens. -/
  | still : Moves link link
  /-- A call is sent. -/
  | requested (call : Call) : Moves link (link.request call).1
  /-- The transport opens a connection. -/
  | opened (connection : Connection) :
    Moves link { link with exchange := link.exchange.open connection }
  /-- The transport closes a connection. -/
  | closed (connection : Connection) :
    Moves link { link with exchange := link.exchange.close connection }
  /-- A notice is taken out of an outbox. -/
  | taken (position : Nat) :
    Moves link
      { link with
        exchange := { link.exchange with outboxes := (link.exchange.outboxes.take position).1 } }
  /-- The receiving end of an outbox is dropped. -/
  | dropped (position : Nat) :
    Moves link
      { link with
        exchange := { link.exchange with outboxes := link.exchange.outboxes.drop position } }

theorem drawn_of_draw (link : Link) {rules after : Interference} {strike : Bool}
    (interference : link.interference = some rules) (draw : rules.draw = (after, strike)) :
    link.drawn .through = some after := by
  unfold drawn
  simp only
  rw [interference, Option.map_some, draw]

theorem blocked?_of_draw (link : Link) (call : Call) {rules after : Interference} {strike : Bool}
    (interference : link.interference = some rules) (draw : rules.draw = (after, strike)) :
    link.blocked? .through call = if strike then some (Interference.failure call) else none := by
  unfold blocked?
  simp only
  rw [interference, Option.bind_some, draw]

/-- A call that the interference strikes goes no further. -/
theorem request_of_blocked {link : Link} {call : Call} {error : TransportError}
    (blocked : link.blocked? .through call = some error) :
    link.request call = ({ link with interference := link.drawn .through }, .error error) := by
  cases interference : link.interference with
  | none =>
      simp only [blocked?, interference, Option.bind_none] at blocked
      cases blocked
  | some rules =>
      obtain ⟨⟨after, strike⟩, draw⟩ : ∃ result, rules.draw = result := ⟨_, rfl⟩
      rw [link.blocked?_of_draw call interference draw] at blocked
      rw [link.request_of_draw call interference draw, link.drawn_of_draw interference draw]
      cases strike with
      | false => cases blocked
      | true =>
          cases blocked
          rfl

/-- A call that the interference spares is accepted. -/
theorem request_of_unblocked {link : Link} {call : Call}
    (free : link.blocked? .through call = none) :
    link.request call =
      (⟨link.drawn .through, (link.exchange.accept call).1⟩, (link.exchange.accept call).2) := by
  cases interference : link.interference with
  | none => simp only [request, drawn, interference, direct, Option.map_none]
  | some rules =>
      obtain ⟨⟨after, strike⟩, draw⟩ : ∃ result, rules.draw = result := ⟨_, rfl⟩
      rw [link.blocked?_of_draw call interference draw] at free
      rw [link.request_of_draw call interference draw, link.drawn_of_draw interference draw]
      cases strike with
      | false => rfl
      | true => cases free

theorem separate_request {link : Link} (separate : link.exchange.outboxes.Separate) (call : Call) :
    (link.request call).1.exchange.outboxes.Separate := by
  unfold request
  split
  · exact link.exchange.separate_accept separate call
  · simp only
    split
    · exact separate
    · exact link.exchange.separate_accept separate call

/-- Whatever happens on the link, no two connections come to share an outbox. -/
theorem Moves.separate {link after : Link} (moves : link.Moves after)
    (separate : link.exchange.outboxes.Separate) : after.exchange.outboxes.Separate := by
  cases moves with
  | still => exact separate
  | requested call => exact separate_request separate call
  | opened connection => exact separate.open connection
  | closed connection => exact separate.close connection
  | taken position => exact separate.take position
  | dropped position => exact separate.drop position

end Link

namespace Switchboard

variable {board : Switchboard} {passage : Passage} {call : Call}

/-- A call that is blocked does not reach the exchange. -/
theorem call_of_blocked {error : TransportError}
    (blocked : board.link.blocked? passage call = some error) :
    board.call passage call =
      ({ board with link := { board.link with interference := board.link.drawn passage } },
        .error error) := by
  cases passage with
  | blocked reason =>
      cases blocked
      rfl
  | through =>
      simp only [Switchboard.call, Link.request_of_blocked blocked]

/-- A call that is not blocked is accepted by the exchange. -/
theorem call_of_unblocked (free : board.link.blocked? passage call = none) :
    board.call passage call =
      ({ board with
          link := ⟨board.link.drawn passage, (board.link.exchange.accept call).1⟩ },
        (board.link.exchange.accept call).2) := by
  cases passage with
  | blocked reason => cases free
  | through =>
      simp only [Switchboard.call, Link.request_of_unblocked free]

theorem link_call (board : Switchboard) (passage : Passage) (call : Call) :
    board.link.Moves (board.call passage call).1.link := by
  cases passage with
  | blocked error => exact .still
  | through => exact .requested call

end Switchboard

theorem Batch.link_perform (batch : Batch) (board : Switchboard) (passage : Passage)
    (operation : Operation) :
    board.link.Moves (batch.perform board passage operation).1.link := by
  unfold Batch.perform
  split
  · exact board.link_call passage operation.call
  · exact .still

theorem Pass.link_perform (pass : Pass) (board : Switchboard) (passage : Passage) (spot : Spot) :
    board.link.Moves (pass.perform board passage spot).1.link := by
  cases pass <;> cases spot <;>
    first
    | exact .still
    | exact Batch.link_perform _ board passage _

theorem Assignment.link_perform (assignment : Assignment) (board : Switchboard)
    (passage : Passage) (spot : Spot) :
    board.link.Moves (assignment.perform board passage spot).1.link := by
  cases assignment <;> cases spot <;>
    first
    | exact .still
    | exact Batch.link_perform _ board passage _

theorem Circular.link_perform (circular : Circular) (board : Switchboard) (passage : Passage)
    (connection : Connection) :
    board.link.Moves (circular.perform board passage connection).1.link := by
  unfold Circular.perform
  split
  · exact board.link_call passage _
  · exact .still

/-- An answer at a spot sends at most one call. -/
theorem Strand.link_perform (strand : Strand) (board : Switchboard) (passage : Passage)
    (spot : Spot) : board.link.Moves (strand.perform board passage spot).1.link := by
  cases strand with
  | queued user => exact .still
  | ended conclusion => exact .still
  | dropped => exact .still
  | lookingUp user =>
      cases spot with
      | account =>
          simp only [perform]
          rw [resolve_board]
          exact .still
      | _ => exact .still
  | running run failure =>
      simp only [perform]
      rw [Run.perform_board]
      exact run.pass.link_perform board passage spot
  | assigning user assignment limited => exact assignment.link_perform board passage spot
  | leaving batch expired =>
      cases spot with
      | operation operation => exact batch.link_perform board passage operation
      | _ => exact .still
  | routing notice =>
      cases spot with
      | publication =>
          have sent := board.link_call passage (.publish notice.source notice)
          simp only [perform]
          split <;> exact sent
      | _ => exact .still
  | circulating circular =>
      cases spot with
      | copy connection => exact circular.link_perform board passage connection
      | _ => exact .still

namespace System

/-- What an event does on the link. -/
theorem link_step (system : System) (event : Event) :
    system.board.link.Moves (system.step event).board.link := by
  cases event with
  | submit request =>
      simp only [step, submit]
      rw [Request.begin_board]
      exact .still
  | visit position => simp only [step]; split <;> exact .still
  | perform position spot passage =>
      simp only [step]
      split
      · exact Strand.link_perform _ system.board passage spot
      · exact .still
  | expire position =>
      simp only [step]
      split
      · simp only [put]
        rw [Strand.expire_board]
        exact .still
      · exact .still
  | abandon position kept =>
      simp only [step]
      split
      · simp only [put]
        split <;> simp only <;> rw [Strand.abandon_board] <;> exact .still
      · exact .still
  | resume =>
      simp only [step]
      split
      · exact .still
      · simp only
        rw [Run.start_board]
        exact .still
  | proceed position =>
      simp only [step]
      split
      · rw [proceed_board]
        exact .still
      · exact .still
  | «open» connection => exact .opened connection
  | close connection => exact .closed connection
  | take position => exact .taken position
  | dropReceiver position => exact .dropped position
  | _ => exact .still

/-- Systems that can come about.  Besides what the events do, calls may come from elsewhere, over the
link or straight to the exchange, and the log may be cleared. -/
inductive Reached : System → Prop
  /-- Nothing has happened, over a link with or without interference. -/
  | initial (directory : Directory) (limits : Limits) (interference : Option Interference) :
    Reached (initial (Switchboard.initial directory limits ⟨interference, Exchange.empty⟩))
  /-- An event happens. -/
  | step {system : System} (reached : Reached system) (event : Event) : Reached (system.step event)
  /-- A call comes from elsewhere over the link. -/
  | called {system : System} (reached : Reached system) (passage : Passage) (call : Call) :
    Reached { system with board := (system.board.call passage call).1 }
  /-- A call comes from elsewhere straight to the exchange. -/
  | direct {system : System} (reached : Reached system) (call : Call) :
    Reached (system.withExchange (system.exchange.accept call).1)
  /-- The log is cleared. -/
  | cleared {system : System} (reached : Reached system) :
    Reached (system.withExchange system.exchange.clearLog)

theorem Reached.run {system : System} (reached : system.Reached) (events : List Event) :
    (system.run events).Reached := by
  induction events generalizing system with
  | nil => exact reached
  | cons event rest induction => exact induction (reached.step event)

/-- No two connections ever share an outbox. -/
theorem Reached.separate {system : System} (reached : system.Reached) :
    system.exchange.outboxes.Separate := by
  induction reached with
  | initial directory limits interference => exact .empty
  | @step system reached event induction => exact (system.link_step event).separate induction
  | @called system reached passage call induction =>
      exact (system.board.link_call passage call).separate induction
  | @direct system reached call induction => exact system.exchange.separate_accept induction call
  | cleared reached induction => exact induction

end System
end ChannelMembership
