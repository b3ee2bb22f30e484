import ChannelMembership.Proofs.Transport.Dealing
import ChannelMembership.Transport.Link

/-!
# Uses of the link

Whoever uses the link sends a call over it, and others may deal with the exchange meanwhile, past
the interference.  The history of a link is the list of its turns: each use together with the link
as it was before.
-/

namespace ChannelMembership
namespace Link

/-- The interference decides about a call before it reaches the exchange. -/
theorem request_of_draw (link : Link) (call : Call) {rules after : Interference} {strike : Bool}
    (interference : link.interference = some rules) (draw : rules.draw = (after, strike)) :
    link.request call =
      if strike then ({ link with interference := some after }, .error (Interference.failure call))
      else ({ link with interference := some after } : Link).direct call := by
  unfold request
  rw [interference]
  simp only [draw]

/-- Something that is done with the link or with the exchange behind it. -/
inductive Use where
  /-- A call is sent over the link. -/
  | request (call : Call)
  /-- Somebody deals with the exchange itself. -/
  | past (dealing : Dealing)

namespace Use

/-- What is asked of the exchange. -/
def dealing : Use → Dealing
  | request call => .request call
  | past dealing => dealing

/-- Whether a call is sent over the link. -/
def isRequest : Use → Bool
  | request _ => true
  | past _ => false

/-- Carry out a use. -/
def perform (link : Link) : Use → Link × Dealing.Answer
  | request call => ((link.request call).1, .delivered (link.request call).2)
  | past dealing =>
    ({ link with exchange := (dealing.perform link.exchange).1 },
      (dealing.perform link.exchange).2)

end Use

/-- How many calls are sent over the link. -/
def requests (uses : List Use) : Nat := uses.countP Use.isRequest

theorem requests_cons (use : Use) (rest : List Use) :
    requests (use :: rest) =
      if use.isRequest = true then requests rest + 1 else requests rest := by
  rw [requests, List.countP_cons, ← requests]
  split <;> rfl

/-- A use of the link, and the link at the moment at which it takes place. -/
structure Turn where
  /-- The link before the use. -/
  link : Link
  /-- The use. -/
  use : Use

namespace Turn

/-- The link after the use. -/
def next (turn : Turn) : Link := (turn.use.perform turn.link).1

/-- What the use answers. -/
def answer (turn : Turn) : Dealing.Answer := (turn.use.perform turn.link).2

/-- Whether the transport is said to have failed. -/
def failed (turn : Turn) : Bool :=
  match turn.answer with
  | .delivered (.error (.failed _)) => true
  | _ => false

end Turn

/-- The link after some uses. -/
def after (link : Link) (uses : List Use) : Link :=
  uses.foldl (fun link use => (use.perform link).1) link

/-- The turns of some uses. -/
def turns : Link → List Use → List Turn
  | _, [] => []
  | link, use :: rest => ⟨link, use⟩ :: (use.perform link).1.turns rest

@[simp]
theorem after_nil (link : Link) : link.after [] = link := rfl

@[simp]
theorem after_cons (link : Link) (use : Use) (rest : List Use) :
    link.after (use :: rest) = (Turn.next ⟨link, use⟩).after rest := rfl

@[simp]
theorem turns_nil (link : Link) : link.turns [] = [] := rfl

@[simp]
theorem turns_cons (link : Link) (use : Use) (rest : List Use) :
    link.turns (use :: rest) = ⟨link, use⟩ :: (Turn.next ⟨link, use⟩).turns rest := rfl

end Link
end ChannelMembership
