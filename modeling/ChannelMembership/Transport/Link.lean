import ChannelMembership.Transport.Interference

/-!
# The link to the transport

All calls go over one link: either straight to the exchange, or through interference first.
-/

namespace ChannelMembership

/-- The exchange and what lies before it. -/
structure Link where
  /-- Interference on the way, if there is any. -/
  interference : Option Interference
  /-- The transport's own bookkeeping. -/
  exchange : Exchange

namespace Link

/-- A link without interference to an empty exchange. -/
def clear : Link := ⟨none, Exchange.empty⟩

/-- A link with interference to an empty exchange. -/
def noisy (interference : Interference) : Link := ⟨some interference, Exchange.empty⟩

/-- Put a call through to the exchange, past any interference. -/
def direct (link : Link) (call : Call) : Link × Delivery :=
  let (exchange, delivery) := link.exchange.accept call
  ({ link with exchange := exchange }, delivery)

/-- Send a call over the link. -/
def request (link : Link) (call : Call) : Link × Delivery :=
  match link.interference with
  | none => link.direct call
  | some interference =>
    let (after, strike) := interference.draw
    let link := { link with interference := some after }
    if strike then (link, .error (Interference.failure call)) else link.direct call

/-- How many calls were made to fail; absent on a link without interference. -/
def injected (link : Link) : Option Nat := link.interference.map Interference.injected

end Link
end ChannelMembership
