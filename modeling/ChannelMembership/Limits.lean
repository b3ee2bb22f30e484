/-!
# Limits of operation

How long a connection may take to be set up, how many calls to the transport one piece of work may
have under way, and how many permission changes may be queued.
-/

namespace ChannelMembership

/-- Seconds and limits are numbers of 64 bits. -/
abbrev wordBound : Nat := 0x10000000000000000

/-- A span of time. -/
structure Duration where
  /-- Whole seconds. -/
  seconds : Fin wordBound
  /-- Nanoseconds beyond the last whole second. -/
  nanoseconds : Fin 1000000000
  deriving DecidableEq

namespace Duration

/-- Seconds and nanoseconds, where a surplus of nanoseconds is carried over; absent if the seconds
grow too large. -/
def ofParts? (seconds nanoseconds : Nat) : Option Duration :=
  if h : seconds + nanoseconds / 1000000000 < wordBound then
    some ⟨⟨seconds + nanoseconds / 1000000000, h⟩,
      ⟨nanoseconds % 1000000000, Nat.mod_lt _ (by decide)⟩⟩
  else none

/-- A span given in milliseconds; absent if it is too long. -/
def ofMillis? (millis : Nat) : Option Duration :=
  ofParts? (millis / 1000) (millis % 1000 * 1000000)

/-- The span in milliseconds, a begun one counted as whole. -/
def millis (duration : Duration) : Nat :=
  duration.seconds.val * 1000 + (duration.nanoseconds.val + 999999) / 1000000

end Duration

/-- The limits of operation. -/
structure Limits where
  /-- How long the setup of a connection may take. -/
  handshake : Duration
  /-- How many calls to the transport one piece of work may have under way. -/
  callsUnderWay : Fin wordBound
  /-- How many permission changes may be queued. -/
  changesQueued : Fin wordBound
  deriving DecidableEq

namespace Limits

/-- Ten seconds, 64 calls and 1024 changes. -/
def standard : Limits := ⟨⟨10, 0⟩, 64, 1024⟩

end Limits
end ChannelMembership
