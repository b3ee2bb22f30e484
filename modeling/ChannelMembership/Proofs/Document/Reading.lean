import Mathlib.Data.List.Forall2
import ChannelMembership.Proofs.Document.Spelling

/-!
# Reading what was written

Compact text spells the document that it was written for, if all numbers in it are natural.  So the
reader gets the document back.
-/

namespace ChannelMembership

namespace Json

/-- Four hexadecimal digits name the code unit that they were written for. -/
theorem codeUnit?_fixed {unit : Nat} (small : unit < 0x10000) :
    ∃ a b c d, Hex.fixed 4 unit = [a, b, c, d] ∧ codeUnit? a b c d = some unit := by
  refine ⟨_, _, _, _, rfl, ?_⟩
  have digit (n : Nat) : Hex.digit? (Nat.digitChar (n % 16)) = some (n % 16) :=
    Hex.digit?_digitChar (Nat.mod_lt n (by decide))
  simp only [codeUnit?, digit, Option.bind_eq_bind, Option.bind_some, Option.some.injEq]
  omega

/-- A symbol is taken off the front of a string. -/
theorem readSymbols_written (symbol : Symbol) (rest : List Char) :
    readSymbols (symbol.written ++ rest) =
      (readSymbols rest).map fun (symbols, rest) => (symbol :: symbols, rest) := by
  have named {unit : Nat} (small : unit < 0x10000) (same : Symbol.ofUnit unit = symbol) :
      readSymbols ('\\' :: 'u' :: Hex.fixed 4 unit ++ rest) =
        (readSymbols rest).map fun (symbols, rest) => (symbol :: symbols, rest) := by
    obtain ⟨a, b, c, d, digits, value⟩ := codeUnit?_fixed small
    simp only [digits, List.cons_append, List.nil_append, readSymbols, value, same]
  cases symbol with
  | surrogate offset =>
      have inside := offset.isLt
      refine named (by omega) ?_
      have half : 0xD800 ≤ 0xD800 + offset.val ∧ 0xD800 + offset.val < 0xE000 := by omega
      simp [Symbol.ofUnit, half]
  | char c =>
      cases short : Symbol.shortEscape? c with
      | some escape =>
          simp only [Symbol.written, short]
          unfold Symbol.shortEscape? at short
          split at short <;> cases short <;> rfl
      | none =>
          by_cases control : c.toNat < 0x20
          · simp only [Symbol.written, short, control, if_true]
            refine named (by omega) ?_
            have whole : ¬(0xD800 ≤ c.toNat ∧ c.toNat < 0xE000) := by omega
            simp [Symbol.ofUnit, whole]
          · have quote : c ≠ '"' := by
              rintro rfl
              cases short
            have backslash : c ≠ '\\' := by
              rintro rfl
              cases short
            simp only [Symbol.written, short, control, if_false, List.singleton_append]
            rw [readSymbols]
            · rw [if_neg (not_or_intro backslash control)]
            · exact quote
            · exact fun _ _ _ _ _ escape => absurd escape backslash
            · exact fun _ _ escape => absurd escape backslash

/-- A string is read up to its closing quote. -/
theorem readSymbols_quoted (symbols : List Symbol) (rest : List Char) :
    readSymbols (symbols.flatMap Symbol.written ++ '"' :: rest) = some (symbols, rest) := by
  induction symbols with
  | nil => rfl
  | cons symbol symbols induction =>
      rw [List.flatMap_cons, List.append_assoc, readSymbols_written, induction]
      rfl

/-- A number that is not zero is written without a leading zero. -/
theorem toDigits_eq_cons {n : Nat} (positive : 0 < n) :
    ∃ digit digits, Nat.toDigits 10 n = digit :: digits ∧ digit ≠ '0' := by
  induction n using Nat.strongRecOn with
  | ind n induction =>
      by_cases small : n < 10
      · refine ⟨Nat.digitChar n, [], Nat.toDigits_of_lt_base small, fun zero => ?_⟩
        have value := Nat.toNat_digitChar_of_lt_ten small
        rw [zero] at value
        change 48 = 48 + n at value
        omega
      · obtain ⟨digit, digits, written, nonzero⟩ :=
          induction (n / 10) (by omega) (by omega)
        refine ⟨digit, digits ++ [Nat.digitChar (n % 10)], ?_, nonzero⟩
        rw [Nat.toDigits_of_base_le (by decide) (by omega), written]
        rfl

theorem isDigit_toDigits (n : Nat) : ∀ c ∈ Nat.toDigits 10 n, c.isDigit = true :=
  fun _ member => Nat.isDigit_of_mem_toDigits (by decide) (by decide) member

theorem ofDigits_toDigits (n : Nat) : ofDigits (Nat.toDigits 10 n) = n := by
  have value := @Nat.ofDigitChars_ten_toDigits n
  rw [Nat.ofDigitChars_eq_foldl] at value
  simpa only [ofDigits, Nat.mul_comm] using value

theorem readWhole_toDigits (n : Nat) {rest : List Char} (ends : EndsNumber rest) :
    readWhole (Nat.toDigits 10 n ++ rest) = some (Nat.toDigits 10 n, rest) := by
  have span := spanDigits_append (isDigit_toDigits n) ends.endsDigits
  rcases Nat.eq_zero_or_pos n with rfl | positive
  · rfl
  · obtain ⟨digit, digits, written, nonzero⟩ := toDigits_eq_cons positive
    rw [written] at span ⊢
    rw [readWhole.eq_def]
    split
    · rename_i zero
      exact absurd (List.cons.inj zero).1 nonzero
    · simp only [span]
      rfl

theorem readFraction_of_ends {rest : List Char} (ends : EndsNumber rest) :
    readFraction rest = some ([], rest) := by
  rw [readFraction.eq_def]
  split
  · exact absurd rfl (ends '.' rfl).2.1
  · rfl

/-- A natural number is read up to its last digit. -/
theorem readNumber_toDigits (n : Nat) {rest : List Char} (ends : EndsNumber rest) :
    readNumber (Nat.toDigits 10 n ++ rest) = some (natural n, rest) := by
  have whole := readWhole_toDigits n ends
  have unsigned : ∀ tail, Nat.toDigits 10 n ++ rest ≠ '-' :: tail := by
    intro tail same
    cases written : Nat.toDigits 10 n with
    | nil => exact absurd written Nat.toDigits_ne_nil
    | cons digit digits =>
        rw [written] at same
        have digit_eq : digit = '-' := (List.cons.inj same).1
        have isDigit := isDigit_toDigits n digit (by rw [written]; exact List.mem_cons_self)
        rw [digit_eq] at isDigit
        cases isDigit
  rw [readNumber]
  · simp [whole, readFraction_of_ends ends, readExponent_of_ends ends, ofDigits_toDigits]
  · exact unsigned

/-- A document without numbers other than natural ones. -/
inductive Plain : Json → Prop
  /-- The null value. -/
  | null : Plain null
  /-- A truth value. -/
  | boolean (value : Bool) : Plain (boolean value)
  /-- A natural number. -/
  | natural (n : Nat) : Plain (natural n)
  /-- A string. -/
  | string (symbols : List Symbol) : Plain (string symbols)
  /-- An array. -/
  | array {items : List Json} (plain : ∀ item ∈ items, Plain item) : Plain (array items)
  /-- An object. -/
  | object {members : List (List Symbol × Json)}
    (plain : ∀ member ∈ members, Plain member.2) : Plain (object members)

theorem compactItems_eq (items : List Json) : compactItems items = itemsText (items.map compact) := by
  induction items with
  | nil => rfl
  | cons item items induction =>
      cases items with
      | nil => rfl
      | cons next items =>
          rw [compactItems, induction]
          · rfl
          · simp

theorem compactMembers_eq (members : List (List Symbol × Json)) :
    compactMembers members =
      membersText (members.map fun (name, value) => (quoted name, value.compact)) := by
  induction members with
  | nil => rfl
  | cons member members induction =>
      cases members with
      | nil => rfl
      | cons next members =>
          rw [compactMembers, induction]
          · rfl
          · simp

/-- Symbols are read from between their quotes, whatever follows. -/
theorem readSymbols_quoted_append (symbols : List Symbol) (other : List Char) :
    readSymbols (symbols.flatMap Symbol.written ++ ['"'] ++ other) = some (symbols, other) := by
  rw [List.append_assoc]
  exact readSymbols_quoted symbols other

theorem spells_quoted (symbols : List Symbol) : Spells (quoted symbols) (string symbols) :=
  spells_string (readSymbols_quoted_append symbols)

theorem writtenLabel_quoted (symbols : List Symbol) : WrittenLabel (quoted symbols) symbols :=
  ⟨[], _, [], (List.append_nil _).symm, allBlank_nil, allBlank_nil,
    readSymbols_quoted_append symbols⟩

theorem spells_natural (n : Nat) : Spells (Nat.toDigits 10 n) (natural n) := by
  have read := fun other ends => @readNumber_toDigits n other ends
  have isDigit := isDigit_toDigits n
  cases written : Nat.toDigits 10 n with
  | nil => exact absurd written Nat.toDigits_ne_nil
  | cons digit digits =>
      rw [written] at read isDigit
      exact spells_number (.inl (isDigit digit List.mem_cons_self)) read

/-- A plain document is spelled by its compact text. -/
theorem Plain.spells_compact {json : Json} (plain : json.Plain) : Spells json.compact json := by
  induction plain with
  | null => exact spells_null
  | boolean value =>
      cases value with
      | false => exact spells_false
      | true => exact spells_true
  | natural n => exact spells_natural n
  | string symbols => exact spells_quoted symbols
  | @array items plain spells =>
      rw [compact, compactItems_eq]
      refine spells_array allBlank_nil (List.forall₂_map_left_iff.2 ?_)
      exact List.forall₂_same.2 fun item member => (spells item member).written
  | @object members plain spells =>
      rw [compact, compactMembers_eq]
      refine spells_object allBlank_nil (List.forall₂_map_left_iff.2 ?_)
      exact List.forall₂_same.2 fun member among =>
        ⟨writtenLabel_quoted member.1, (spells member among).written⟩

/-- The compact text of a plain document denotes the document. -/
theorem Plain.parse?_compact {json : Json} (plain : json.Plain) :
    parse? json.compact = some json :=
  parse?_eq_some_iff.2 plain.spells_compact.written

end Json
end ChannelMembership
