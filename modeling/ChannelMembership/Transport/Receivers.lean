import ChannelMembership.Transport.Exchange

/-!
# Named receivers

Whoever opens a connection keeps the receiving end of its outbox under a name of their choice.
Keeping another receiving end under a name drops the one that was kept there.
-/

namespace ChannelMembership

/-- Which outbox is received under which name. -/
structure Receivers where
  /-- Names with the position of an outbox. -/
  kept : List (String × Nat)

namespace Receivers

/-- No receiving end is kept. -/
def empty : Receivers := ⟨[]⟩

/-- Drop the receiving end kept under a name; the last component tells whether there was one. -/
def drop (receivers : Receivers) (name : String) (exchange : Exchange) :
    Receivers × Exchange × Bool :=
  match receivers.kept.lookup name with
  | none => (receivers, exchange, false)
  | some position =>
    (⟨receivers.kept.filter fun entry => entry.1 ≠ name⟩,
      { exchange with outboxes := exchange.outboxes.drop position }, true)

/-- Open a connection and keep the receiving end under a name. -/
def «open» (receivers : Receivers) (name : String) (connection : Connection)
    (exchange : Exchange) : Receivers × Exchange :=
  let opened := exchange.open connection
  let position := opened.outboxes.boxes.length - 1
  let (others, opened, _) := receivers.drop name opened
  (⟨(name, position) :: others.kept⟩, opened)

/-- Take the next notice from the receiving end kept under a name. -/
def receive (receivers : Receivers) (name : String) (exchange : Exchange) :
    Exchange × Reception :=
  match receivers.kept.lookup name with
  | none => (exchange, .absent)
  | some position =>
    let (outboxes, reception) := exchange.outboxes.take position
    ({ exchange with outboxes := outboxes }, reception)

end Receivers
end ChannelMembership
