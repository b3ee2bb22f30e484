import ChannelMembership.Document.Json

/-!
# Records in documents

A record is read by the names of its fields.  As an object it may list its members in any order; a
known name must not repeat, and unknown members are skipped unless the record is strict.  As an
array it lists all its fields in order; a record whose fields all have defaults may end early.
-/

namespace ChannelMembership

/-- How a kind of record is laid out. -/
structure Layout where
  /-- The names of the fields in order. -/
  names : List String
  /-- Whether unknown members are refused. -/
  strict : Bool
  /-- Whether an array may leave out fields at the end. -/
  mayEndEarly : Bool

namespace Layout

/-- A record that skips unknown members and is complete as an array. -/
def plain (names : List String) : Layout := ⟨names, false, false⟩

/-- The members of an object under the texts of their names. -/
def named? (members : List (List Symbol × Json)) : Option (List (String × Json)) :=
  members.mapM fun (name, value) =>
    (Symbol.text? name).map fun text => (String.ofList text, value)

/-- The values given for a name. -/
def valuesOf (members : List (String × Json)) (name : String) : List Json :=
  (members.filter fun member => member.1 = name).map Prod.snd

/-- The values of the fields in order, absent where a field is missing. -/
def fields? (layout : Layout) : Json → Option (List (Option Json))
  | .object members => do
    let members ← named? members
    if layout.strict && members.any (fun member => !layout.names.contains member.1) then none
    else if layout.names.any fun name => 1 < (valuesOf members name).length then none
    else some (layout.names.map fun name => (valuesOf members name).head?)
  | .array items =>
    if items.length = layout.names.length ∨
        (layout.mayEndEarly = true ∧ items.length < layout.names.length) then
      some (items.map some ++ List.replicate (layout.names.length - items.length) none)
    else none
  | _ => none

end Layout

namespace Json

/-- A record as an object. -/
def record (fields : List (String × Json)) : Json :=
  object (fields.map fun (name, value) => (Symbol.ofText name, value))

end Json
end ChannelMembership
