import ChannelMembership.Text.Quoted

/-!
# Braced descriptions

One-line descriptions of structured values: named fields between braces, sets and maps between
braces, sequences between brackets.  Two dots stand for fields that are left out.
-/

namespace ChannelMembership
namespace Braced

/-- A value with named fields; `elided` tells whether fields are left out at the end. -/
def fields (name : String) (parts : List (String × String)) (elided : Bool) : String :=
  let shown := parts.map fun (label, value) => label ++ ": " ++ value
  name ++ " \x7b " ++ String.intercalate ", " (shown ++ if elided then [".."] else []) ++ " \x7d"

/-- A value with one field that has no name. -/
def wrapped (name value : String) : String := name ++ "(" ++ value ++ ")"

/-- A sequence. -/
def sequence (items : List String) : String :=
  "[" ++ String.intercalate ", " items ++ "]"

/-- A set. -/
def set (items : List String) : String :=
  "\x7b" ++ String.intercalate ", " items ++ "\x7d"

/-- A map. -/
def map (entries : List (String × String)) : String :=
  set (entries.map fun (key, value) => key ++ ": " ++ value)

/-- A truth value. -/
def truth (value : Bool) : String := if value then "true" else "false"

end Braced
end ChannelMembership
