import ChannelMembership.Access.Directory
import ChannelMembership.Refusal

/-!
# Partitions of the known channels

Authorising a principal splits the known channels in two.  A channel is authorised when every guard
that governs it answers with a definite yes.  The guards of a channel are asked in registration
order, and the first refusal or error ends the questioning for that channel.
-/

namespace ChannelMembership

/-- One question put to a guard, with its answer. -/
structure Consultation where
  /-- The guard that was asked. -/
  guard : Guard
  /-- The channel it was asked about. -/
  channel : Channel
  /-- What it answered. -/
  verdict : Verdict

/-- Ask guards in turn about a channel, up to and including the first that does not grant it. -/
def consult (principal : Principal) (channel : Channel) : List Guard → List Consultation
  | [] => []
  | guard :: rest =>
    let verdict := guard.decide principal channel
    ⟨guard, channel, verdict⟩ ::
      if verdict.grants then consult principal channel rest else []

/-- Whether guards asked in turn about a channel all grant it; the first that does not decides. -/
def unanimous (principal : Principal) (channel : Channel) : List Guard → Bool
  | [] => true
  | guard :: rest =>
    match guard.decide principal channel with
    | .ok true => unanimous principal channel rest
    | .ok false => false
    | .error _ => false

/-- The known channels, split by whether the principal may receive them. -/
structure Partition where
  /-- Channels the principal may receive, in name order. -/
  authorized : List Channel
  /-- Channels the principal must not receive, in name order. -/
  unauthorized : List Channel
  deriving DecidableEq

namespace Partition

/-- No channel on either side. -/
def empty : Partition := ⟨[], []⟩

/-- Put a channel on the side where it belongs. -/
def record (partition : Partition) (channel : Channel) (granted : Bool) : Partition :=
  let insert := Ascending.insert fun a b => decide (a ≤ b)
  if granted then { partition with authorized := insert channel partition.authorized }
  else { partition with unauthorized := insert channel partition.unauthorized }

/-- Put channels in turn where the answers of their guards say that they belong. -/
def recordAll (principal : Principal) :
    List (Channel × List Guard) → Partition → Partition
  | [], partition => partition
  | (channel, guards) :: rest, partition =>
    recordAll principal rest (partition.record channel (unanimous principal channel guards))

/-- Split channels by a test, keeping their order. -/
def ofTest (test : Channel → Bool) (channels : List Channel) : Partition :=
  ⟨channels.filter test, channels.filter (fun channel => !test channel)⟩

/-- Whether a channel is authorised; an unknown channel is not. -/
def authorizes (partition : Partition) (channel : Channel) : Bool :=
  partition.authorized.contains channel

/-- All channels of the partition, authorised ones first. -/
def channels (partition : Partition) : List Channel :=
  partition.authorized ++ partition.unauthorized

end Partition

namespace Table

/-- The listed channels, each with the guards to be asked about it.  A channel that is listed
without a guard is an error. -/
def questions (table : Table) : Except MembershipError (List (Channel × List Guard)) :=
  table.channels.mapM fun channel =>
    let guards := table.guardsFor channel
    if guards.isEmpty then .error (.ungoverned channel) else .ok (channel, guards)

/-- Split the listed channels for a principal; nobody is asked if there is an error. -/
def authorize (table : Table) (principal : Principal) : Except MembershipError Partition := do
  let questions ← table.questions
  return Partition.recordAll principal questions Partition.empty

end Table

namespace Directory

/-- Whether every guard of a channel grants it to the principal. -/
def grants (directory : Directory) (principal : Principal) (channel : Channel) : Bool :=
  (directory.guardsFor channel).all fun guard => (guard.decide principal channel).grants

/-- Split the known channels for a principal. -/
def authorize (directory : Directory) (principal : Principal) : Partition :=
  Partition.ofTest (directory.grants principal) directory.channels

/-- The questions put while authorising a principal: channel after channel in name order. -/
def consultations (directory : Directory) (principal : Principal) : List Consultation :=
  directory.channels.flatMap fun channel =>
    consult principal channel (directory.guardsFor channel)

/-- The partition that denies every known channel. -/
def denyAll (directory : Directory) : Partition :=
  ⟨[], directory.channels⟩

end Directory
end ChannelMembership
