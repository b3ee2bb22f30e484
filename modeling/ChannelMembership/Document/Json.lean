import ChannelMembership.Text.Hex

/-!
# Documents

A document is a JSON value.  Strings are kept as the symbols they are made of, because an escape may
name half of a surrogate pair; such a string is a valid piece of a document but denotes no text.
Numbers are told apart only as far as it matters here: plain natural numbers, and all others, which
are kept as they were written.
-/

namespace ChannelMembership

/-- One symbol of a string in a document. -/
inductive Symbol where
  /-- A character. -/
  | char (c : Char)
  /-- Half of a surrogate pair: the code unit `0xD800 + offset`. -/
  | surrogate (offset : Fin 0x800)
  deriving DecidableEq

namespace Symbol

/-- The symbol of a 16-bit code unit. -/
def ofUnit (unit : Nat) : Symbol :=
  if h : 0xD800 ≤ unit ∧ unit < 0xE000 then surrogate ⟨unit - 0xD800, by omega⟩
  else char (Char.ofNat unit)

/-- The text that symbols denote.  A pair of a high and a low surrogate denotes one character;
a surrogate without its partner denotes nothing. -/
def text? : List Symbol → Option (List Char)
  | [] => some []
  | char c :: rest => (text? rest).map (c :: ·)
  | surrogate high :: surrogate low :: rest =>
    if high.val < 0x400 ∧ 0x400 ≤ low.val then
      (text? rest).map (Char.ofNat (0x10000 + high.val * 0x400 + (low.val - 0x400)) :: ·)
    else none
  | surrogate _ :: _ => none

/-- The symbols of a text. -/
def ofText (text : String) : List Symbol := text.toList.map char

/-- The short escape of a character, if it has one. -/
def shortEscape? (c : Char) : Option Char :=
  match c with
  | '"' => some '"'
  | '\\' => some '\\'
  | '\x08' => some 'b'
  | '\x0c' => some 'f'
  | '\n' => some 'n'
  | '\r' => some 'r'
  | '\t' => some 't'
  | _ => none

/-- The character with a given short escape; a slash may be escaped but need not be. -/
def ofShortEscape? (c : Char) : Option Char :=
  match c with
  | '"' => some '"'
  | '\\' => some '\\'
  | '/' => some '/'
  | 'b' => some '\x08'
  | 'f' => some '\x0c'
  | 'n' => some '\n'
  | 'r' => some '\r'
  | 't' => some '\t'
  | _ => none

/-- A symbol as it is written between quotes.  Quotes, backslashes and control characters are
escaped, everything else stands for itself. -/
def written : Symbol → List Char
  | char c =>
    match shortEscape? c with
    | some escape => ['\\', escape]
    | none => if c.toNat < 0x20 then '\\' :: 'u' :: Hex.fixed 4 c.toNat else [c]
  | surrogate offset => '\\' :: 'u' :: Hex.fixed 4 (0xD800 + offset.val)

end Symbol

/-- A JSON value. -/
inductive Json where
  /-- The null value. -/
  | null
  /-- A truth value. -/
  | boolean (value : Bool)
  /-- A number without sign, fraction and exponent. -/
  | natural (n : Nat)
  /-- Any other number, as it was written. -/
  | literal (text : List Char)
  /-- A string. -/
  | string (symbols : List Symbol)
  /-- An array. -/
  | array (items : List Json)
  /-- An object; members keep their order, and names may repeat. -/
  | object (members : List (List Symbol × Json))

namespace Json

/-- A string that denotes a text. -/
def ofText (text : String) : Json := string (Symbol.ofText text)

/-- The text that a string denotes. -/
def text? : Json → Option String
  | string symbols => (Symbol.text? symbols).map String.ofList
  | _ => none

/-- Symbols between quotes. -/
def quoted (symbols : List Symbol) : List Char :=
  '"' :: symbols.flatMap Symbol.written ++ ['"']

mutual

/-- A value written without blanks. -/
def compact : Json → List Char
  | null => ['n', 'u', 'l', 'l']
  | boolean true => ['t', 'r', 'u', 'e']
  | boolean false => ['f', 'a', 'l', 's', 'e']
  | natural n => Nat.toDigits 10 n
  | literal text => text
  | string symbols => quoted symbols
  | array items => '[' :: compactItems items
  | object members => '{' :: compactMembers members

/-- The rest of an array after its opening bracket. -/
def compactItems : List Json → List Char
  | [] => [']']
  | [item] => compact item ++ [']']
  | item :: rest => compact item ++ ',' :: compactItems rest

/-- The rest of an object after its opening brace. -/
def compactMembers : List (List Symbol × Json) → List Char
  | [] => ['}']
  | [(name, value)] => quoted name ++ ':' :: compact value ++ ['}']
  | (name, value) :: rest => quoted name ++ ':' :: compact value ++ ',' :: compactMembers rest

end

end Json
end ChannelMembership
