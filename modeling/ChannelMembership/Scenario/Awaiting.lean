import ChannelMembership.Scenario.Stage

/-!
# Holding answers up

When an answer begins to be awaited, the first armed hook that is about it acts.  The answer is then
held up until the interlude of the hook has been played and its delay has passed; an answer that no
hook is about comes about at once.
-/

namespace ChannelMembership
namespace Stage

/-- Let an event happen to the system. -/
def happen (stage : Stage) (event : Event) : Stage :=
  { stage with system := stage.system.step event }

/-- Set a timer. -/
def setTimer (stage : Stage) (delay : Nat) : Stage × Timer :=
  ({ stage with timersSet := stage.timersSet + 1 }, ⟨stage.now + delay, stage.timersSet⟩)

/-- Whether a timer is due. -/
def isDue (stage : Stage) (timer : Timer) : Bool := timer.due ≤ stage.now

/-- The strand at a position. -/
def strand (stage : Stage) (position : Nat) : Strand :=
  (stage.system.strands[position]?).getD .dropped

/-- How an answer is held up, if it is. -/
def holdAt? (stage : Stage) (position : Nat) (spot : Spot) : Option Hold :=
  stage.holds.lookup (position, spot)

/-- Remove what holds up an answer. -/
def unhold (stage : Stage) (position : Nat) (spot : Spot) : Stage :=
  { stage with holds := stage.holds.filter fun entry => entry.1 ≠ (position, spot) }

/-- Hold up an answer. -/
def hold (stage : Stage) (position : Nat) (spot : Spot) (hold : Hold) : Stage :=
  let cleared := stage.unhold position spot
  { cleared with holds := ((position, spot), hold) :: cleared.holds }

/-- Bring a held-up answer to its end. -/
def finishHold (stage : Stage) (position : Nat) (spot : Spot) : Ending → Stage
  | .passage passage => (stage.unhold position spot).happen (.perform position spot passage)
  | .stall => stage.hold position spot .stalled

/-- Whether an optional filter admits a value. -/
def admits {α : Type} [DecidableEq α] (filter : Option α) (value : α) : Bool :=
  match filter with
  | none => true
  | some wanted => decide (wanted = value)

/-- Whether a hook is about an awaited answer.  Guards without a label are never held up. -/
def concerns : Trigger → Inquiry → Bool
  | .guard label channel, .guard guard about =>
    guard.label.isSome && (label.isNone || decide (label = guard.label)) && admits channel about
  | .join connection channel, .transport (.join joined about) =>
    admits connection joined && admits channel about
  | .leave connection channel, .transport (.leave left about) =>
    admits connection left && admits channel about
  | .publish channel, .transport (.publish about _) => admits channel about
  | .send connection, .transport (.send receiver _) => admits connection receiver
  | .account user, .account about => admits user about
  | _, _ => false

/-- The first armed hook about an answer that may still act, and the hooks after it has acted. -/
def fire (inquiry : Inquiry) : List Armed → Option (Hook Step × List Armed)
  | [] => none
  | armed :: rest =>
    if armed.left ≠ some 0 && concerns armed.hook.trigger inquiry then
      some (armed.hook, { armed with left := armed.left.map (· - 1) } :: rest)
    else (fire inquiry rest).map fun (hook, rest) => (hook, armed :: rest)

/-- The error with which a hook makes a call fail. -/
def faultError (call : Call) : Fault → TransportError
  | .closed => .notOpen (call.connection?.getD ⟨""⟩)
  | .failed reason => .failed reason

/-- How an answer comes about after a hook has acted. -/
def ending (hook : Hook Step) (inquiry : Inquiry) : Ending :=
  if hook.stall then .stall
  else
    match inquiry, hook.fault with
    | .transport call, some fault => .passage (.blocked (faultError call fault))
    | _, _ => .passage .through

/-- Count a question or a look-up. -/
def count (stage : Stage) : Inquiry → Stage
  | .guard guard _ =>
    match guard.label with
    | some label => { stage with questions := stage.questions.modify label (· + 1) }
    | none => stage
  | .transport _ => stage
  | .account _ => { stage with lookups := stage.lookups + 1 }

/-- An answer begins to be awaited: it comes about at once unless a hook acts. -/
def await (stage : Stage) (position : Nat) (spot : Spot) (inquiry : Inquiry) : Stage :=
  let stage := stage.count inquiry
  match fire inquiry stage.hooks with
  | none => stage.happen (.perform position spot .through)
  | some (hook, hooks) =>
    { stage with hooks := hooks }.hold position spot
      (.playing ⟨none, hook.interlude⟩ hook.delay (ending hook inquiry))

/-- The interlude before an answer is over: let time pass, if it has to. -/
def afterInterlude (stage : Stage) (position : Nat) (spot : Spot) (delay : Nat)
    (ending : Ending) : Stage :=
  if delay = 0 then stage.finishHold position spot ending
  else
    let (stage, timer) := stage.setTimer delay
    stage.hold position spot (.sleeping timer ending)

end Stage
end ChannelMembership
