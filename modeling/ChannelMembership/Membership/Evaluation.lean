import ChannelMembership.Access.Partition

/-!
# Evaluations

An evaluation authorises a principal when answers take time.  Every known channel has a lane of its
own.  In each lane the guards of the channel are asked one after the other, up to the first that
does not grant it; the lanes do not wait for each other.
-/

namespace ChannelMembership

/-- How far the questioning about one channel has come. -/
inductive Progress where
  /-- A guard is being asked, others follow if it grants the channel. -/
  | asking (guard : Guard) (rest : List Guard)
  /-- The decision about the channel. -/
  | decided (granted : Bool)

namespace Progress

/-- Ask the first of some guards; with nobody left to ask, the channel is granted. -/
def start : List Guard → Progress
  | [] => decided true
  | guard :: rest => asking guard rest

/-- Go on after the answer of the guard being asked. -/
def answer (granted : Bool) : Progress → Progress
  | asking _ rest => if granted then start rest else decided false
  | decided granted => decided granted

/-- The guard being asked. -/
def asked? : Progress → Option Guard
  | asking guard _ => some guard
  | decided _ => none

/-- The decision, once there is one. -/
def decision? : Progress → Option Bool
  | asking _ _ => none
  | decided granted => some granted

end Progress

/-- The questioning about one channel. -/
structure Lane where
  /-- The channel. -/
  channel : Channel
  /-- How far it has come. -/
  progress : Progress

/-- The questioning about all known channels. -/
structure Evaluation where
  /-- The principal presented. -/
  principal : Principal
  /-- One lane per known channel, in name order. -/
  lanes : List Lane

namespace Evaluation

/-- Begin to authorise a principal. -/
def start (directory : Directory) (principal : Principal) : Evaluation where
  principal := principal
  lanes := directory.channels.map fun channel =>
    ⟨channel, Progress.start (directory.guardsFor channel)⟩

/-- The guard being asked about a channel. -/
def asked? (evaluation : Evaluation) (channel : Channel) : Option Guard :=
  (evaluation.lanes.find? fun lane => lane.channel = channel).bind fun lane => lane.progress.asked?

/-- The channels about which a guard is being asked, in name order. -/
def undecided (evaluation : Evaluation) : List Channel :=
  (evaluation.lanes.filter fun lane => lane.progress.asked?.isSome).map Lane.channel

/-- Go on in the lane of a channel after an answer. -/
def answer (evaluation : Evaluation) (channel : Channel) (granted : Bool) : Evaluation :=
  { evaluation with
    lanes := evaluation.lanes.map fun lane =>
      if lane.channel = channel then { lane with progress := lane.progress.answer granted }
      else lane }

/-- Whether every channel has been decided. -/
def isDone (evaluation : Evaluation) : Bool :=
  evaluation.lanes.all fun lane => lane.progress.decision?.isSome

/-- Put the present question about a channel to its guard and go on with the answer. -/
def ask (evaluation : Evaluation) (channel : Channel) : Evaluation :=
  match evaluation.asked? channel with
  | some guard => evaluation.answer channel (guard.decide evaluation.principal channel).grants
  | none => evaluation

/-- The split of the channels by the decisions made so far. -/
def partition (evaluation : Evaluation) : Partition where
  authorized :=
    (evaluation.lanes.filter fun lane => lane.progress.decision? = some true).map Lane.channel
  unauthorized :=
    (evaluation.lanes.filter fun lane => lane.progress.decision? = some false).map Lane.channel

end Evaluation
end ChannelMembership
