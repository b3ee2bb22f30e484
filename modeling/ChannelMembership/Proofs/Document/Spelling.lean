import Mathlib.Data.List.DropRight
import Mathlib.Data.List.TakeWhile
import ChannelMembership.Document.Reader

/-!
# Spellings

A text spells a document if the reader takes the document off its front, whatever follows.  Only a
number needs to know where it ends: it must not be followed by something that would go on with it.
Spellings are put together from the spellings of their parts, with blanks between tokens, and whatever
the reader takes off a text has been put together in this way.
-/

namespace ChannelMembership
namespace Json

section Blanks

variable {blanks text : List Char}

/-- Nothing but blanks. -/
def AllBlank (text : List Char) : Prop := ∀ c ∈ text, isBlank c = true

theorem allBlank_nil : AllBlank [] := nofun

theorem skipBlanks_cons {c : Char} (visible : isBlank c = false) (text : List Char) :
    skipBlanks (c :: text) = c :: text := by
  simp [skipBlanks, visible]

theorem skipBlanks_append (blank : AllBlank blanks) (text : List Char) :
    skipBlanks (blanks ++ text) = skipBlanks text :=
  List.dropWhile_append_of_pos blank

theorem skipBlanks_eq_nil (blank : AllBlank blanks) : skipBlanks blanks = [] :=
  List.dropWhile_eq_nil_iff.2 blank

theorem exists_blanks (text : List Char) :
    ∃ blanks, AllBlank blanks ∧ text = blanks ++ skipBlanks text :=
  ⟨text.takeWhile isBlank, fun _ member => List.mem_takeWhile_imp member,
    (List.takeWhile_append_dropWhile).symm⟩

theorem skipBlanks_skipBlanks (text : List Char) : skipBlanks (skipBlanks text) = skipBlanks text :=
  List.dropWhile_idempotent _ _

theorem readValue_skipBlanks (fuel : Nat) (text : List Char) :
    readValue fuel (skipBlanks text) = readValue fuel text := by
  cases fuel with
  | zero => rfl
  | succ fuel => simp only [readValue, skipBlanks_skipBlanks]

theorem readItems_skipBlanks (fuel : Nat) (text : List Char) :
    readItems fuel (skipBlanks text) = readItems fuel text := by
  cases fuel with
  | zero => rfl
  | succ fuel => simp only [readItems, readValue_skipBlanks]

theorem readMembers_skipBlanks (fuel : Nat) (text : List Char) :
    readMembers fuel (skipBlanks text) = readMembers fuel text := by
  cases fuel with
  | zero => rfl
  | succ fuel => simp only [readMembers, skipBlanks_skipBlanks]

end Blanks

section Numbers

/-- A text that does not go on with digits. -/
def EndsDigits (rest : List Char) : Prop := ∀ c ∈ rest.head?, c.isDigit = false

/-- A text that does not go on with a number. -/
def EndsNumber (rest : List Char) : Prop :=
  ∀ c ∈ rest.head?, c.isDigit = false ∧ c ≠ '.' ∧ c ≠ 'e' ∧ c ≠ 'E'

theorem EndsNumber.endsDigits {rest : List Char} (ends : EndsNumber rest) : EndsDigits rest :=
  fun c first => (ends c first).1

theorem endsNumber_nil : EndsNumber [] := nofun

/-- The characters that follow an item or a member end a number. -/
theorem endsNumber_cons {c : Char} (rest : List Char) (closes : c ∈ [',', ']', '}']) :
    EndsNumber (c :: rest) := by
  rintro c' ⟨⟩
  simp only [List.mem_cons, List.not_mem_nil, or_false] at closes
  rcases closes with rfl | rfl | rfl <;> decide

theorem endsNumber_append {blanks rest : List Char} (blank : AllBlank blanks)
    (ends : EndsNumber rest) : EndsNumber (blanks ++ rest) := by
  cases blanks with
  | nil => exact ends
  | cons c blanks =>
      have white := blank c List.mem_cons_self
      simp only [isBlank, Bool.or_eq_true, decide_eq_true_eq] at white
      rintro c' ⟨⟩
      rcases white with ((rfl | rfl) | rfl) | rfl <;> decide

theorem spanDigits_append {digits rest : List Char} (all : ∀ c ∈ digits, c.isDigit = true)
    (ends : EndsDigits rest) : spanDigits (digits ++ rest) = (digits, rest) := by
  rw [spanDigits, List.takeWhile_append_of_pos all, List.dropWhile_append_of_pos all]
  cases rest with
  | nil => simp
  | cons c rest =>
      have other := ends c rfl
      simp [other]

theorem spanDigits_eq (text : List Char) :
    text = (spanDigits text).1 ++ (spanDigits text).2 ∧
      ∀ c ∈ (spanDigits text).1, c.isDigit = true :=
  ⟨(List.takeWhile_append_dropWhile).symm, fun _ member => List.mem_takeWhile_imp member⟩

/-- The whole part of a number is read up to its last digit. -/
theorem readWhole_append {text whole rest : List Char}
    (read : readWhole text = some (whole, rest)) :
    text = whole ++ rest ∧ (∃ c digits, whole = c :: digits ∧ c.isDigit = true) ∧
      ∀ other, EndsDigits other → readWhole (whole ++ other) = some (whole, other) := by
  rw [readWhole.eq_def] at read
  split at read
  · cases read
    exact ⟨rfl, ⟨_, _, rfl, by decide⟩, fun other ends => rfl⟩
  · rename_i nonzero
    obtain ⟨split, all⟩ := spanDigits_eq text
    cases digits : (spanDigits text).1 with
    | nil => simp [digits] at read
    | cons c more =>
        simp only [digits, List.isEmpty_cons, Bool.false_eq_true, if_false, Option.some.injEq,
          Prod.mk.injEq] at read
        obtain ⟨rfl, rfl⟩ := read
        rw [digits] at split all
        refine ⟨split, ⟨c, more, rfl, all c List.mem_cons_self⟩, fun other ends => ?_⟩
        have span := spanDigits_append all ends
        rw [readWhole.eq_def]
        split
        · rename_i zero
          rw [(List.cons.inj zero).1] at split
          exact absurd split (nonzero _)
        · simp only [span]
          rfl

/-- A fraction is empty or begins with a point, and is read up to its last digit. -/
theorem readFraction_append {text fraction rest : List Char}
    (read : readFraction text = some (fraction, rest)) :
    text = fraction ++ rest ∧ (∀ c ∈ fraction.head?, c = '.') ∧
      ∀ other, EndsDigits other → (∀ c ∈ other.head?, c ≠ '.') →
        readFraction (fraction ++ other) = some (fraction, other) := by
  rw [readFraction.eq_def] at read
  split at read
  · rename_i text
    obtain ⟨split, all⟩ := spanDigits_eq text
    cases digits : (spanDigits text).1 with
    | nil => simp [digits] at read
    | cons c more =>
        simp only [digits, List.isEmpty_cons, Bool.false_eq_true, if_false, Option.some.injEq,
          Prod.mk.injEq] at read
        obtain ⟨rfl, rfl⟩ := read
        rw [digits] at split all
        refine ⟨congrArg ('.' :: ·) split, by simp, fun other ends _ => ?_⟩
        have span := spanDigits_append all ends
        simp only [List.cons_append] at span ⊢
        simp [readFraction, span]
  · cases read
    refine ⟨rfl, nofun, fun other _ point => ?_⟩
    rw [List.nil_append, readFraction.eq_def]
    split
    · exact absurd rfl (point '.' rfl)
    · rfl

theorem readExponent_of_ends {rest : List Char} (ends : EndsNumber rest) :
    readExponent rest = some ([], rest) := by
  cases rest with
  | nil => rfl
  | cons c rest =>
      obtain ⟨-, -, small, large⟩ := ends c rfl
      simp [readExponent, small, large]

/-- A sign is read whatever follows, and a digit is not taken for a sign. -/
theorem readSign_append (text : List Char) :
    text = (readSign text).1 ++ (readSign text).2 ∧
      ∀ other, (∃ c ∈ other.head?, c.isDigit = true) →
        readSign ((readSign text).1 ++ other) = ((readSign text).1, other) := by
  rw [readSign.eq_def]
  split
  · exact ⟨rfl, fun other digit => rfl⟩
  · exact ⟨rfl, fun other digit => rfl⟩
  · refine ⟨rfl, fun other digit => ?_⟩
    rw [List.nil_append, readSign.eq_def]
    split
    · simp at digit
    · simp at digit
    · rfl

/-- An exponent is empty or begins with its letter, and is read up to its last digit. -/
theorem readExponent_append {text exponent rest : List Char}
    (read : readExponent text = some (exponent, rest)) :
    text = exponent ++ rest ∧ (∀ c ∈ exponent.head?, c = 'e' ∨ c = 'E') ∧
      ∀ other, EndsNumber other → readExponent (exponent ++ other) = some (exponent, other) := by
  cases text with
  | nil =>
      cases read
      exact ⟨rfl, nofun, fun other ends => readExponent_of_ends ends⟩
  | cons c text =>
      by_cases letter : c = 'e' ∨ c = 'E'
      · obtain ⟨signed, sign_read⟩ := readSign_append text
        obtain ⟨split, all⟩ := spanDigits_eq (readSign text).2
        cases digits : (spanDigits (readSign text).2).1 with
        | nil => simp [readExponent, letter, digits] at read
        | cons d more =>
            simp only [readExponent, letter, if_true, digits, List.isEmpty_cons,
              Bool.false_eq_true, if_false, Option.some.injEq, Prod.mk.injEq] at read
            obtain ⟨rfl, rfl⟩ := read
            rw [digits] at split all
            refine ⟨?_, by simpa using letter, fun other ends => ?_⟩
            · have whole := signed.trans (congrArg ((readSign text).1 ++ ·) split)
              simpa using whole
            · have sign := sign_read (d :: more ++ other) (by simpa using all d List.mem_cons_self)
              have span := spanDigits_append all ends.endsDigits
              simp only [List.cons_append, List.append_assoc] at sign span ⊢
              simp [readExponent, letter, sign, span]
      · simp only [readExponent, letter, if_false, Option.some.injEq, Prod.mk.injEq] at read
        obtain ⟨rfl, rfl⟩ := read
        exact ⟨rfl, nofun, fun other ends => readExponent_of_ends ends⟩

theorem endsDigits_append {part rest : List Char} (starts : ∀ c ∈ part.head?, c.isDigit = false)
    (ends : EndsDigits rest) : EndsDigits (part ++ rest) := by
  cases part with
  | nil => exact ends
  | cons c part => exact fun c' same => starts c' same

/-- A number after its sign. -/
def readUnsigned (sign text : List Char) : Option (Json × List Char) := do
  let (whole, rest) ← readWhole text
  let (fraction, rest) ← readFraction rest
  let (exponent, rest) ← readExponent rest
  if sign.isEmpty && fraction.isEmpty && exponent.isEmpty then some (natural (ofDigits whole), rest)
  else some (literal (sign ++ whole ++ fraction ++ exponent), rest)

theorem readNumber_minus (text : List Char) :
    readNumber ('-' :: text) = readUnsigned ['-'] text := rfl

theorem readNumber_unsigned {text : List Char} (unsigned : ∀ c ∈ text.head?, c ≠ '-') :
    readNumber text = readUnsigned [] text := by
  rw [readNumber]
  · rfl
  · rintro rest rfl
    exact unsigned '-' rfl rfl

/-- A document that is a number. -/
def Numeric : Json → Prop
  | natural _ => True
  | literal _ => True
  | _ => False

/-- A number after its sign is read up to its last digit. -/
theorem readUnsigned_append {sign text rest : List Char} {json : Json}
    (read : readUnsigned sign text = some (json, rest)) :
    json.Numeric ∧ ∃ used, text = used ++ rest ∧
      (∃ c digits, used = c :: digits ∧ c.isDigit = true) ∧ ∀ other, EndsNumber other →
        readUnsigned sign (used ++ other) = some (json, other) := by
  obtain ⟨⟨whole, second⟩, whole_read, read_on⟩ := Option.bind_eq_some_iff.1 read
  obtain ⟨⟨fraction, third⟩, fraction_read, read_last⟩ := Option.bind_eq_some_iff.1 read_on
  obtain ⟨⟨exponent, last⟩, exponent_read, done⟩ := Option.bind_eq_some_iff.1 read_last
  obtain ⟨rfl, ⟨c, digits, rfl, digit⟩, whole_append⟩ := readWhole_append whole_read
  obtain ⟨rfl, point, fraction_append⟩ := readFraction_append fraction_read
  obtain ⟨rfl, letter, exponent_append⟩ := readExponent_append exponent_read
  refine ⟨?_, c :: digits ++ fraction ++ exponent, ?_,
    ⟨c, digits ++ fraction ++ exponent, by simp, digit⟩, fun other ends => ?_⟩
  · simp only at done
    split at done <;> cases done <;> trivial
  · simp only at done
    split at done <;> cases done <;> simp
  · have fraction_ends : EndsDigits (exponent ++ other) := endsDigits_append (fun c first => by
      rcases letter c first with rfl | rfl <;> decide) ends.endsDigits
    have pointless : ∀ c ∈ (exponent ++ other).head?, c ≠ '.' := by
      cases exponent with
      | nil => exact fun c first => (ends c first).2.1
      | cons e exponent =>
          rintro c ⟨⟩ rfl
          exact absurd (letter '.' rfl) (by decide)
    have whole_ends : EndsDigits (fraction ++ (exponent ++ other)) :=
      endsDigits_append (fun c first => by rw [point c first]; decide) fraction_ends
    have whole_read := whole_append _ whole_ends
    have fraction_read := fraction_append _ fraction_ends pointless
    have exponent_read := exponent_append other ends
    simp only [List.append_assoc] at whole_read ⊢
    simp only [readUnsigned, whole_read, fraction_read, exponent_read, Option.bind_eq_bind,
      Option.bind_some]
    simp only at done
    split at done
    · rename_i plain
      cases done
      rw [if_pos plain]
    · rename_i other_form
      cases done
      rw [if_neg other_form]

/-- A number is read up to its last digit. -/
theorem readNumber_append {text rest : List Char} {json : Json}
    (read : readNumber text = some (json, rest)) :
    json.Numeric ∧ ∃ used, text = used ++ rest ∧
      (∃ c digits, used = c :: digits ∧ (c.isDigit = true ∨ c = '-')) ∧
      ∀ other, EndsNumber other → readNumber (used ++ other) = some (json, other) := by
  by_cases minus : ∃ body, text = '-' :: body
  · obtain ⟨body, rfl⟩ := minus
    rw [readNumber_minus] at read
    obtain ⟨numeric, used, rfl, -, append⟩ := readUnsigned_append read
    exact ⟨numeric, '-' :: used, rfl, ⟨'-', used, rfl, .inr rfl⟩, append⟩
  · have unsigned : ∀ c ∈ text.head?, c ≠ '-' := by
      rintro c first rfl
      exact minus (List.head?_eq_some_iff.1 first)
    rw [readNumber_unsigned unsigned] at read
    obtain ⟨numeric, used, rfl, ⟨c, digits, rfl, digit⟩, append⟩ := readUnsigned_append read
    refine ⟨numeric, c :: digits, rfl, ⟨c, digits, rfl, .inl digit⟩, fun other ends => ?_⟩
    have unsigned : ∀ c' ∈ (c :: digits ++ other).head?, c' ≠ '-' := unsigned
    rw [readNumber_unsigned unsigned, append other ends]

end Numbers

/-- A string is read up to its closing quote. -/
theorem readSymbols_append {text rest : List Char} {symbols : List Symbol}
    (read : readSymbols text = some (symbols, rest)) :
    ∃ used, text = used ++ rest ∧
      ∀ other, readSymbols (used ++ other) = some (symbols, other) := by
  induction text using readSymbols.induct generalizing symbols with
  | case1 => cases read
  | case2 text =>
      cases read
      exact ⟨['"'], rfl, fun other => rfl⟩
  | case3 a b c d text unnamed => simp [readSymbols, unnamed] at read
  | case4 a b c d text unit named induction =>
      simp only [readSymbols, named] at read
      obtain ⟨⟨later, rest⟩, later_read, ⟨⟩⟩ := Option.map_eq_some_iff.1 read
      obtain ⟨used, rfl, append⟩ := induction later_read
      refine ⟨'\\' :: 'u' :: a :: b :: c :: d :: used, rfl, fun other => ?_⟩
      simp [readSymbols, named, append]
  | case5 escape text long unknown => 
      rw [readSymbols, unknown] at read
      · cases read
      · exact long
  | case6 escape text long c known induction =>
      rw [readSymbols, known] at read
      · obtain ⟨⟨later, rest⟩, later_read, ⟨⟩⟩ := Option.map_eq_some_iff.1 read
        obtain ⟨used, rfl, append⟩ := induction later_read
        refine ⟨'\\' :: escape :: used, rfl, fun other => ?_⟩
        have short : escape ≠ 'u' := by
          rintro rfl
          cases known
        rw [List.cons_append, List.cons_append, readSymbols, known, append other]
        · rfl
        · exact fun _ _ _ _ _ same => absurd same short
      · exact long
  | case7 c text quote long escaped refused =>
      rw [readSymbols, if_pos refused] at read
      · cases read
      · exact quote
      · exact long
      · exact escaped
  | case8 c text quote long escaped accepted induction =>
      have backslash : c ≠ '\\' := fun same => accepted (.inl same)
      rw [readSymbols, if_neg accepted] at read
      · obtain ⟨⟨later, rest⟩, later_read, ⟨⟩⟩ := Option.map_eq_some_iff.1 read
        obtain ⟨used, rfl, append⟩ := induction later_read
        refine ⟨c :: used, rfl, fun other => ?_⟩
        rw [List.cons_append, readSymbols, if_neg accepted, append other]
        · rfl
        · exact quote
        · exact fun _ _ _ _ _ same => absurd same backslash
        · exact fun _ _ same => absurd same backslash
      · exact quote
      · exact long
      · exact escaped

/-- The reader takes the document off the front of a text that begins in this way.  The fuel is bounded
by the length of what is taken: a level of nesting takes two units and has an opening and a closing
character. -/
def Spells (text : List Char) (json : Json) : Prop :=
  ∀ (fuel : Nat) (rest : List Char), 2 * text.length ≤ fuel → EndsNumber rest →
    readValue fuel (text ++ rest) = some (json, rest)

/-- A text that spells a document, with blanks behind it. -/
def Written (text : List Char) (json : Json) : Prop :=
  ∃ spelling blanks, text = spelling ++ blanks ∧ Spells spelling json ∧ AllBlank blanks

/-- A name between quotes, with blanks around it. -/
def WrittenLabel (text : List Char) (name : List Symbol) : Prop :=
  ∃ before used after, text = before ++ '"' :: used ++ after ∧ AllBlank before ∧ AllBlank after ∧
    ∀ other, readSymbols (used ++ other) = some (name, other)

/-- The texts of a name and a value, which make up a member of an object. -/
def WrittenMember (texts : List Char × List Char) (member : List Symbol × Json) : Prop :=
  WrittenLabel texts.1 member.1 ∧ Written texts.2 member.2

/-- The texts of items up to the closing bracket. -/
def itemsText : List (List Char) → List Char
  | [] => [']']
  | [item] => item ++ [']']
  | item :: rest => item ++ ',' :: itemsText rest

/-- The texts of members up to the closing brace. -/
def membersText : List (List Char × List Char) → List Char
  | [] => ['}']
  | [(name, value)] => name ++ ':' :: value ++ ['}']
  | (name, value) :: rest => name ++ ':' :: value ++ ',' :: membersText rest

section Composition

variable {blanks text rest : List Char} {json : Json}

theorem Spells.written (spells : Spells text json) : Written text json :=
  ⟨text, [], (List.append_nil text).symm, spells, allBlank_nil⟩

/-- Blanks may stand before a document. -/
theorem Spells.pad (spells : Spells text json) (blank : AllBlank blanks) :
    Spells (blanks ++ text) json := by
  intro fuel rest enough ends
  rw [List.length_append] at enough
  rw [List.append_assoc, ← readValue_skipBlanks, skipBlanks_append blank, readValue_skipBlanks]
  exact spells fuel rest (by omega) ends

/-- A character takes at least one unit of fuel. -/
theorem exists_fuel {fuel length : Nat} (enough : 2 * length ≤ fuel) (positive : 0 < length) :
    ∃ less, fuel = less + 1 :=
  ⟨fuel - 1, by omega⟩

theorem spells_null : Spells ['n', 'u', 'l', 'l'] null := by
  intro fuel rest enough ends
  obtain ⟨fuel, rfl⟩ := exists_fuel enough (by simp)
  rfl

theorem spells_true : Spells ['t', 'r', 'u', 'e'] (boolean true) := by
  intro fuel rest enough ends
  obtain ⟨fuel, rfl⟩ := exists_fuel enough (by simp)
  rfl

theorem spells_false : Spells ['f', 'a', 'l', 's', 'e'] (boolean false) := by
  intro fuel rest enough ends
  obtain ⟨fuel, rfl⟩ := exists_fuel enough (by simp)
  rfl

theorem spells_string {symbols : List Symbol}
    (read : ∀ other, readSymbols (text ++ other) = some (symbols, other)) :
    Spells ('"' :: text) (string symbols) := by
  intro fuel rest enough ends
  obtain ⟨fuel, rfl⟩ := exists_fuel enough (by simp)
  rw [List.cons_append, readValue, skipBlanks_cons (by decide)]
  simp [read]

theorem spells_number {c : Char} {digits : List Char} (starts : c.isDigit = true ∨ c = '-')
    (read : ∀ other, EndsNumber other → readNumber (c :: digits ++ other) = some (json, other)) :
    Spells (c :: digits) json := by
  intro fuel rest enough ends
  obtain ⟨fuel, rfl⟩ := exists_fuel enough (by simp)
  have visible : isBlank c = false := by
    rw [Bool.eq_false_iff]
    intro blank
    simp only [isBlank, Bool.or_eq_true, decide_eq_true_eq] at blank
    rcases blank with ((rfl | rfl) | rfl) | rfl <;> exact absurd starts (by decide)
  rw [List.cons_append, readValue, skipBlanks_cons visible]
  split
  case h_7 => exact read rest ends
  all_goals
    rename_i same
    rw [(List.cons.inj same).1] at starts
    exact absurd starts (by decide)

/-- A document does not begin with a character that closes an array or an object. -/
theorem readValue_eq_none {fuel : Nat} {c : Char} (closes : c = ']' ∨ c = '}')
    (first : skipBlanks text = c :: rest) : readValue fuel text = none := by
  cases fuel with
  | zero => rfl
  | succ fuel =>
      rw [readValue, first]
      rcases closes with rfl | rfl <;> rfl

theorem readItems_eq_none {fuel : Nat} (first : skipBlanks text = ']' :: rest) :
    readItems fuel text = none := by
  cases fuel with
  | zero => rfl
  | succ fuel => rw [readItems, readValue_eq_none (.inl rfl) first]

theorem readMembers_eq_none {fuel : Nat} (first : skipBlanks text = '}' :: rest) :
    readMembers fuel text = none := by
  cases fuel with
  | zero => rfl
  | succ fuel =>
      rw [readMembers, first]
      rfl

/-- The items of an array are read up to the closing bracket. -/
theorem readItems_itemsText {texts : List (List Char)} {items : List Json}
    (written : List.Forall₂ Written texts items) (nonempty : texts ≠ []) :
    ∀ (fuel : Nat) (rest : List Char), 2 * (itemsText texts).length ≤ fuel →
      readItems fuel (itemsText texts ++ rest) = some (items, rest) := by
  induction written with
  | nil => exact absurd rfl nonempty
  | @cons text item texts items first later induction =>
      intro fuel rest enough
      obtain ⟨spelling, blanks, rfl, spells, blank⟩ := first
      cases later with
      | nil =>
          simp only [itemsText, List.length_append, List.length_singleton] at enough
          obtain ⟨fuel, rfl⟩ := Nat.exists_eq_add_one.2 (Nat.lt_of_lt_of_le (by omega) enough)
          simp only [itemsText, List.append_assoc, List.singleton_append, readItems]
          rw [spells fuel _ (by omega) (endsNumber_append blank (endsNumber_cons rest (by simp)))]
          simp [skipBlanks_append blank, skipBlanks_cons (show isBlank ']' = false by decide)]
      | @cons text' item' texts items second later =>
          have read := induction (by simp)
          simp only [itemsText, List.length_append, List.length_cons] at enough
          obtain ⟨fuel, rfl⟩ := Nat.exists_eq_add_one.2 (Nat.lt_of_lt_of_le (by omega) enough)
          rw [itemsText, List.append_assoc, List.append_assoc, List.cons_append, readItems]
          · rw [spells fuel _ (by omega) (endsNumber_append blank (endsNumber_cons _ (by simp)))]
            simp [skipBlanks_append blank, skipBlanks_cons (show isBlank ',' = false by decide),
              read fuel rest (by omega)]
          · simp

/-- The members of an object are read up to the closing brace. -/
theorem readMembers_membersText {texts : List (List Char × List Char)}
    {members : List (List Symbol × Json)} (written : List.Forall₂ WrittenMember texts members)
    (nonempty : texts ≠ []) :
    ∀ (fuel : Nat) (rest : List Char), 2 * (membersText texts).length ≤ fuel →
      readMembers fuel (membersText texts ++ rest) = some (members, rest) := by
  induction written with
  | nil => exact absurd rfl nonempty
  | @cons texts member _ _ first later induction =>
      intro fuel rest enough
      obtain ⟨nameText, valueText⟩ := texts
      obtain ⟨name, value⟩ := member
      obtain ⟨⟨pad, used, gap, rfl, pad_blank, gap_blank, symbols_read⟩, spelling, blanks, rfl,
        spells, blank⟩ := first
      have quote := skipBlanks_cons (show isBlank '"' = false by decide)
      have colon := skipBlanks_cons (show isBlank ':' = false by decide)
      cases later with
      | nil =>
          simp only [membersText, List.length_append, List.length_cons] at enough
          obtain ⟨fuel, rfl⟩ := Nat.exists_eq_add_one.2 (Nat.lt_of_lt_of_le (by omega) enough)
          simp only [membersText, List.append_assoc, List.cons_append, List.nil_append, readMembers,
            skipBlanks_append pad_blank, quote, symbols_read, skipBlanks_append gap_blank, colon]
          rw [spells fuel _ (by omega) (endsNumber_append blank (endsNumber_cons rest (by simp)))]
          simp [skipBlanks_append blank, skipBlanks_cons (show isBlank '\x7d' = false by decide)]
      | @cons texts' member' _ _ second later =>
          have read := induction (by simp)
          rw [membersText] at enough ⊢
          · simp only [List.length_append, List.length_cons] at enough
            obtain ⟨fuel, rfl⟩ := Nat.exists_eq_add_one.2 (Nat.lt_of_lt_of_le (by omega) enough)
            simp only [List.append_assoc, List.cons_append, readMembers,
              skipBlanks_append pad_blank, quote, symbols_read, skipBlanks_append gap_blank, colon]
            rw [spells fuel _ (by omega) (endsNumber_append blank (endsNumber_cons _ (by simp)))]
            simp [skipBlanks_append blank, skipBlanks_cons (show isBlank ',' = false by decide),
              read fuel rest (by omega)]
          · simp
          · simp

theorem spells_array {inner : List Char} {texts : List (List Char)} {items : List Json}
    (blank : AllBlank inner) (written : List.Forall₂ Written texts items) :
    Spells ('[' :: (inner ++ itemsText texts)) (array items) := by
  intro fuel rest enough ends
  rw [List.length_cons, List.length_append] at enough
  obtain ⟨fuel, rfl⟩ := Nat.exists_eq_add_one.2 (Nat.lt_of_lt_of_le (by omega) enough)
  rw [List.cons_append, readValue, skipBlanks_cons (by decide)]
  simp only [List.append_assoc, skipBlanks_append blank]
  cases written with
  | nil => rfl
  | @cons text item texts items first later =>
      have read := readItems_itemsText (List.Forall₂.cons first later) (by simp) fuel rest (by omega)
      split
      · rename_i body closed
        rw [readItems_eq_none closed] at read
        cases read
      · rw [readItems_skipBlanks, read]
        rfl

theorem spells_object {inner : List Char} {texts : List (List Char × List Char)}
    {members : List (List Symbol × Json)} (blank : AllBlank inner)
    (written : List.Forall₂ WrittenMember texts members) :
    Spells ('{' :: (inner ++ membersText texts)) (object members) := by
  intro fuel rest enough ends
  rw [List.length_cons, List.length_append] at enough
  obtain ⟨fuel, rfl⟩ := Nat.exists_eq_add_one.2 (Nat.lt_of_lt_of_le (by omega) enough)
  rw [List.cons_append, readValue, skipBlanks_cons (by decide)]
  simp only [List.append_assoc, skipBlanks_append blank]
  cases written with
  | nil => rfl
  | @cons text member texts members first later =>
      have read := readMembers_membersText (List.Forall₂.cons first later) (by simp) fuel rest
        (by omega)
      split
      · rename_i body closed
        rw [readMembers_eq_none closed] at read
        cases read
      · rw [readMembers_skipBlanks, read]
        rfl

end Composition

/-- The ways to spell a document without a blank before it. -/
inductive Shape : List Char → Json → Prop
  /-- The null value. -/
  | null : Shape ['n', 'u', 'l', 'l'] null
  /-- The truth value true. -/
  | true : Shape ['t', 'r', 'u', 'e'] (boolean true)
  /-- The truth value false. -/
  | false : Shape ['f', 'a', 'l', 's', 'e'] (boolean false)
  /-- A string. -/
  | string {text : List Char} {symbols : List Symbol}
    (read : ∀ other, readSymbols (text ++ other) = some (symbols, other)) :
    Shape ('"' :: text) (string symbols)
  /-- A number. -/
  | number {c : Char} {digits : List Char} {json : Json} (numeric : json.Numeric)
    (starts : c.isDigit = Bool.true ∨ c = '-')
    (read : ∀ other, EndsNumber other → readNumber (c :: digits ++ other) = some (json, other)) :
    Shape (c :: digits) json
  /-- An array. -/
  | array {inner : List Char} {texts : List (List Char)} {items : List Json}
    (blank : AllBlank inner) (written : List.Forall₂ Written texts items) :
    Shape ('[' :: (inner ++ itemsText texts)) (array items)
  /-- An object. -/
  | object {inner : List Char} {texts : List (List Char × List Char)}
    {members : List (List Symbol × Json)} (blank : AllBlank inner)
    (written : List.Forall₂ WrittenMember texts members) :
    Shape ('{' :: (inner ++ membersText texts)) (object members)

theorem Shape.spells {text : List Char} {json : Json} (shape : Shape text json) :
    Spells text json := by
  cases shape with
  | null => exact spells_null
  | true => exact spells_true
  | false => exact spells_false
  | string read => exact spells_string read
  | number numeric starts read => exact spells_number starts read
  | array blank written => exact spells_array blank written
  | object blank written => exact spells_object blank written

section Decomposition

/-- With this fuel, whatever value is taken off a text has one of the shapes. -/
def ValuesShaped (fuel : Nat) : Prop :=
  ∀ text json rest, readValue fuel text = some (json, rest) →
    ∃ blanks used, text = blanks ++ (used ++ rest) ∧ AllBlank blanks ∧ Shape used json

/-- With this fuel, items taken off a text have been put together from written items. -/
def ItemsWritten (fuel : Nat) : Prop :=
  ∀ text items rest, readItems fuel text = some (items, rest) →
    ∃ texts, texts ≠ [] ∧ text = itemsText texts ++ rest ∧ List.Forall₂ Written texts items

/-- With this fuel, members taken off a text have been put together from written members. -/
def MembersWritten (fuel : Nat) : Prop :=
  ∀ text members rest, readMembers fuel text = some (members, rest) →
    ∃ texts, texts ≠ [] ∧ text = membersText texts ++ rest ∧
      List.Forall₂ WrittenMember texts members

variable {fuel : Nat}

theorem valuesShaped_succ (items : ItemsWritten fuel) (members : MembersWritten fuel) :
    ValuesShaped (fuel + 1) := by
  intro text json rest read
  obtain ⟨blanks, blank, split⟩ := exists_blanks text
  suffices shaped : ∃ used, skipBlanks text = used ++ rest ∧ Shape used json by
    obtain ⟨used, same, shape⟩ := shaped
    exact ⟨blanks, used, same ▸ split, blank, shape⟩
  rw [readValue] at read
  split at read
  case h_1 text first =>
    cases read
    exact ⟨_, first, .null⟩
  case h_2 text first =>
    cases read
    exact ⟨_, first, .true⟩
  case h_3 text first =>
    cases read
    exact ⟨_, first, .false⟩
  case h_4 text first =>
    obtain ⟨⟨symbols, rest⟩, symbols_read, ⟨⟩⟩ := Option.map_eq_some_iff.1 read
    obtain ⟨used, rfl, append⟩ := readSymbols_append symbols_read
    exact ⟨'"' :: used, first, .string append⟩
  case h_5 text first =>
    obtain ⟨inner, inner_blank, inner_split⟩ := exists_blanks text
    rw [inner_split] at first
    split at read
    · rename_i closed
      cases read
      refine ⟨'[' :: (inner ++ itemsText []), ?_, .array inner_blank .nil⟩
      rw [first, closed]
      simp [itemsText]
    · obtain ⟨⟨found, rest⟩, items_read, ⟨⟩⟩ := Option.map_eq_some_iff.1 read
      obtain ⟨texts, -, same, written⟩ := items _ _ _ items_read
      refine ⟨'[' :: (inner ++ itemsText texts), ?_, .array inner_blank written⟩
      rw [first, same]
      simp
  case h_6 text first =>
    obtain ⟨inner, inner_blank, inner_split⟩ := exists_blanks text
    rw [inner_split] at first
    split at read
    · rename_i closed
      cases read
      refine ⟨'{' :: (inner ++ membersText []), ?_, .object inner_blank .nil⟩
      rw [first, closed]
      simp [membersText]
    · obtain ⟨⟨found, rest⟩, members_read, ⟨⟩⟩ := Option.map_eq_some_iff.1 read
      obtain ⟨texts, -, same, written⟩ := members _ _ _ members_read
      refine ⟨'{' :: (inner ++ membersText texts), ?_, .object inner_blank written⟩
      rw [first, same]
      simp
  case h_7 =>
    obtain ⟨numeric, used, same, ⟨c, digits, rfl, starts⟩, append⟩ := readNumber_append read
    exact ⟨c :: digits, same, .number numeric starts append⟩

theorem itemsText_cons {texts : List (List Char)} (more : texts ≠ []) (text : List Char) :
    itemsText (text :: texts) = text ++ ',' :: itemsText texts := by
  rw [itemsText]
  exact more

theorem membersText_cons {texts : List (List Char × List Char)} (more : texts ≠ [])
    (name value : List Char) :
    membersText ((name, value) :: texts) = name ++ ':' :: value ++ ',' :: membersText texts := by
  rw [membersText]
  exact more

theorem itemsWritten_succ (values : ValuesShaped fuel) (items : ItemsWritten fuel) :
    ItemsWritten (fuel + 1) := by
  intro text found rest read
  rw [readItems] at read
  split at read
  · cases read
  · rename_i item after value_read
    obtain ⟨pad, used, rfl, pad_blank, shape⟩ := values _ _ _ value_read
    obtain ⟨blanks, blank, split⟩ := exists_blanks after
    have written : Written (pad ++ used ++ blanks) item :=
      ⟨pad ++ used, blanks, rfl, shape.spells.pad pad_blank, blank⟩
    split at read
    · rename_i closed
      cases read
      refine ⟨[pad ++ used ++ blanks], List.cons_ne_nil _ _, ?_, .cons written .nil⟩
      rw [split, closed]
      simp [itemsText]
    · rename_i goes_on
      obtain ⟨⟨later, rest⟩, later_read, ⟨⟩⟩ := Option.map_eq_some_iff.1 read
      obtain ⟨texts, more, rfl, later_written⟩ := items _ _ _ later_read
      refine ⟨(pad ++ used ++ blanks) :: texts, List.cons_ne_nil _ _, ?_,
        .cons written later_written⟩
      rw [split, goes_on, itemsText_cons more]
      simp
    · cases read

theorem membersWritten_succ (values : ValuesShaped fuel) (members : MembersWritten fuel) :
    MembersWritten (fuel + 1) := by
  intro text found rest read
  obtain ⟨before, before_blank, before_split⟩ := exists_blanks text
  rw [readMembers] at read
  split at read
  · rename_i body quote
    split at read
    · cases read
    · rename_i name behind_name name_read
      obtain ⟨label, rfl, append⟩ := readSymbols_append name_read
      obtain ⟨after, after_blank, after_split⟩ := exists_blanks behind_name
      have named : WrittenLabel (before ++ '"' :: label ++ after) name :=
        ⟨before, label, after, rfl, before_blank, after_blank, append⟩
      split at read
      · rename_i tail colon
        split at read
        · cases read
        · rename_i value behind value_read
          obtain ⟨pad, used, rfl, pad_blank, shape⟩ := values _ _ _ value_read
          obtain ⟨blanks, blank, split⟩ := exists_blanks behind
          have written : WrittenMember (before ++ '"' :: label ++ after, pad ++ used ++ blanks)
              (name, value) :=
            ⟨named, pad ++ used, blanks, rfl, shape.spells.pad pad_blank, blank⟩
          split at read
          · rename_i closed
            cases read
            refine ⟨[(_, _)], List.cons_ne_nil _ _, ?_, .cons written .nil⟩
            rw [before_split, quote, after_split, colon, split, closed]
            simp [membersText]
          · rename_i goes_on
            obtain ⟨⟨later, rest⟩, later_read, ⟨⟩⟩ := Option.map_eq_some_iff.1 read
            obtain ⟨texts, more, rfl, later_written⟩ := members _ _ _ later_read
            refine ⟨(_, _) :: texts, List.cons_ne_nil _ _, ?_, .cons written later_written⟩
            rw [before_split, quote, after_split, colon, split, goes_on, membersText_cons more]
            simp
          · cases read
      · cases read
  · cases read

/-- Whatever the reader takes off a text has been put together from the spellings of its parts. -/
theorem shaped (fuel : Nat) :
    ValuesShaped fuel ∧ ItemsWritten fuel ∧ MembersWritten fuel := by
  induction fuel with
  | zero => exact ⟨nofun, nofun, nofun⟩
  | succ fuel induction =>
      obtain ⟨values, items, members⟩ := induction
      exact ⟨valuesShaped_succ items members, itemsWritten_succ values items,
        membersWritten_succ values members⟩

end Decomposition

/-- A text denotes a document if it is one of its shapes, up to blanks. -/
theorem exists_shape {text : List Char} {json : Json} (parsed : parse? text = some json) :
    ∃ before used after, text = before ++ used ++ after ∧ AllBlank before ∧ AllBlank after ∧
      Shape used json := by
  rw [parse?] at parsed
  split at parsed
  · rename_i value rest read
    obtain ⟨before, used, rfl, blank, shape⟩ := (shaped _).1 _ _ _ read
    split at parsed
    · rename_i nothing
      cases parsed
      exact ⟨before, used, rest, by rw [List.append_assoc], blank,
        List.dropWhile_eq_nil_iff.1 (List.isEmpty_iff.1 nothing), shape⟩
    · cases parsed
  · cases parsed

/-- The texts that denote a document are those that spell it, with blanks behind it. -/
theorem parse?_eq_some_iff {text : List Char} {json : Json} :
    parse? text = some json ↔ Written text json := by
  constructor
  · intro parsed
    obtain ⟨before, used, after, rfl, blank, blank', shape⟩ := exists_shape parsed
    exact ⟨before ++ used, after, rfl, shape.spells.pad blank, blank'⟩
  · rintro ⟨used, blanks, rfl, spells, blank⟩
    have ends : EndsNumber (blanks ++ []) := endsNumber_append blank endsNumber_nil
    rw [List.append_nil] at ends
    rw [parse?, spells _ blanks (by simp; omega) ends]
    simp [skipBlanks_eq_nil blank]

end Json
end ChannelMembership
