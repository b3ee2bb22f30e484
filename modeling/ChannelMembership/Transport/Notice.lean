import ChannelMembership.Identity

/-!
# Notices

A notice tells the receivers of a channel that an entity has changed.
-/

namespace ChannelMembership

/-- What happened to an entity. -/
inductive Change where
  /-- It was created. -/
  | created
  /-- It was updated. -/
  | updated
  /-- It was moved to the recycle bin. -/
  | trashed
  /-- It was deleted for good. -/
  | deleted
  deriving DecidableEq

namespace Change

/-- All kinds of change. -/
def all : List Change := [created, updated, trashed, deleted]

/-- The name of a kind of change in documents. -/
def name : Change → String
  | created => "created"
  | updated => "updated"
  | trashed => "trashed"
  | deleted => "deleted"

/-- The kind of change with a given name. -/
def ofName? (text : String) : Option Change :=
  all.find? fun change => change.name = text

@[simp]
theorem ofName?_name (change : Change) : ofName? change.name = some change := by
  cases change <;> decide

end Change

/-- A change notification on a channel. -/
structure Notice where
  /-- The channel the notice belongs to. -/
  source : Channel
  /-- What happened. -/
  change : Change
  /-- Key of the entity. -/
  key : Fin keyBound
  deriving DecidableEq

end ChannelMembership
