import Mathlib.Data.List.Perm.Basic
import Mathlib.Logic.Function.Basic
import ChannelMembership.Proofs.Document.RoundTrip

/-!
# Fields of a record

The fields of a record are the values that its members give for their names.  They depend on neither the
order of the members nor on members with other names, and an object that gives two values for one field
is no record.
-/

namespace ChannelMembership
namespace Layout

/-- The name of a member, if it denotes a text. -/
def nameOf? (member : List Symbol × Json) : Option String :=
  (Symbol.text? member.1).map String.ofList

/-- The values of the members with a name, in order. -/
def given (members : List (List Symbol × Json)) (name : String) : List Json :=
  (members.filter fun member => nameOf? member = some name).map Prod.snd

/-- The members of an object that is a record of this layout. -/
structure Fits (layout : Layout) (members : List (List Symbol × Json)) : Prop where
  /-- Every name denotes a text. -/
  legible : ∀ member ∈ members, (nameOf? member).isSome = true
  /-- A strict record has no member with an unknown name. -/
  known : layout.strict = true → ∀ member ∈ members, ∀ name, nameOf? member = some name →
    name ∈ layout.names
  /-- No known name repeats. -/
  once : ∀ name ∈ layout.names, (given members name).length ≤ 1

variable {layout : Layout} {member member' : List Symbol × Json}
  {members members' : List (List Symbol × Json)} {name : String}

theorem given_cons (member : List Symbol × Json) (members : List (List Symbol × Json))
    (name : String) :
    given (member :: members) name =
      if nameOf? member = some name then member.2 :: given members name
      else given members name := by
  by_cases named : nameOf? member = some name <;> simp [given, named]

theorem given_perm (order : members.Perm members') (name : String) :
    (given members name).Perm (given members' name) :=
  (order.filter _).map _

/-- Where all names denote texts, the members are known under these texts. -/
theorem named?_of_legible (legible : ∀ member ∈ members, (nameOf? member).isSome = true) :
    ∃ named, named? members = some named ∧ (∀ name, valuesOf named name = given members name) ∧
      ∀ name, name ∈ named.map Prod.fst ↔ ∃ member ∈ members, nameOf? member = some name := by
  induction members with
  | nil => exact ⟨[], rfl, fun name => rfl, by simp⟩
  | cons member members induction =>
      obtain ⟨named, named_eq, values, names⟩ :=
        induction fun member among => legible member (List.mem_cons_of_mem _ among)
      obtain ⟨text, text_eq⟩ := Option.isSome_iff_exists.1 (legible member List.mem_cons_self)
      obtain ⟨chars, chars_eq, rfl⟩ := Option.map_eq_some_iff.1 text_eq
      refine ⟨(String.ofList chars, member.2) :: named, ?_, fun name => ?_, fun name => ?_⟩
      · rw [named?] at named_eq ⊢
        simp [List.mapM_cons, named_eq, chars_eq]
      · rw [given_cons, text_eq, ← values]
        by_cases same : String.ofList chars = name <;> simp [valuesOf, same]
      · simp [names, text_eq, eq_comm]

/-- A name that denotes no text is not known. -/
theorem named?_of_illegible (among : member ∈ members) (illegible : nameOf? member = none) :
    named? members = none := by
  induction members with
  | nil => cases among
  | cons first members induction =>
      rw [named?] at induction ⊢
      rcases List.mem_cons.1 among with rfl | later
      · simp [List.mapM_cons, Option.map_eq_none_iff.1 illegible]
      · cases text : Symbol.text? first.1 <;> simp [List.mapM_cons, text, induction later]

/-- The fields of a record are the values given for their names. -/
theorem fields?_of_fits (fits : layout.Fits members) :
    layout.fields? (.object members) =
      some (layout.names.map fun name => (given members name).head?) := by
  obtain ⟨named, named_eq, values, names⟩ := named?_of_legible fits.legible
  have known : layout.strict = true → ∀ name value, (name, value) ∈ named → name ∈ layout.names := by
    intro strict name value among
    obtain ⟨member, listed, text⟩ := (names name).1 (List.mem_map_of_mem among)
    exact fits.known strict member listed name text
  simpa [fields?, named_eq, values] using ⟨known, fits.once⟩

/-- Other objects are no records of this layout. -/
theorem fields?_of_not_fits (misfit : ¬layout.Fits members) :
    layout.fields? (.object members) = none := by
  by_cases legible : ∀ member ∈ members, (nameOf? member).isSome = true
  · obtain ⟨named, named_eq, values, names⟩ := named?_of_legible legible
    have repeated (known : layout.strict = true →
        ∀ name value, (name, value) ∈ named → name ∈ layout.names) :
        ∃ name ∈ layout.names, 1 < (given members name).length := by
      by_contra once
      refine misfit ⟨legible, fun strict member among name text => ?_, by simpa using once⟩
      obtain ⟨source, listed, rfl⟩ := List.mem_map.1 ((names name).2 ⟨member, among, text⟩)
      exact known strict source.1 source.2 listed
    simpa [fields?, named_eq, values] using repeated
  · obtain ⟨member, among, illegible⟩ : ∃ member ∈ members, nameOf? member = none := by
      simpa using legible
    simp [fields?, named?_of_illegible among illegible]

/-- Whether an object is a record does not depend on the order of its members. -/
theorem Fits.perm (fits : layout.Fits members) (order : members.Perm members') :
    layout.Fits members' where
  legible member among := fits.legible member (order.mem_iff.2 among)
  known strict member among := fits.known strict member (order.mem_iff.2 among)
  once name among := (given_perm order name).length_eq ▸ fits.once name among

/-- Neither do its fields. -/
theorem fields?_perm (layout : Layout) (order : members.Perm members') :
    layout.fields? (.object members) = layout.fields? (.object members') := by
  by_cases fits : layout.Fits members
  · rw [fields?_of_fits fits, fields?_of_fits (fits.perm order)]
    refine congrArg some (List.map_congr_left fun name among => ?_)
    have few := fits.once name among
    have same := given_perm order name
    cases values : given members name with
    | nil => rw [values] at same; rw [same.nil_eq]
    | cons value rest =>
        obtain rfl : rest = [] := by simpa [values] using few
        rw [values] at same
        rw [List.singleton_perm.1 same]
  · rw [fields?_of_not_fits fits, fields?_of_not_fits fun fits' => fits (fits'.perm order.symm)]

/-- What a further member must be like. -/
theorem fits_cons_iff :
    layout.Fits (member :: members) ↔
      layout.Fits members ∧ ∃ name, nameOf? member = some name ∧
        (layout.strict = true → name ∈ layout.names) ∧
        (name ∈ layout.names → given members name = []) := by
  constructor
  · intro fits
    obtain ⟨name, named⟩ := Option.isSome_iff_exists.1 (fits.legible member List.mem_cons_self)
    refine ⟨⟨fun other among => fits.legible other (List.mem_cons_of_mem _ among),
      fun strict other among => fits.known strict other (List.mem_cons_of_mem _ among),
      fun known among => ?_⟩, name, named,
      fun strict => fits.known strict member List.mem_cons_self name named, fun known => ?_⟩
    · have few := fits.once known among
      rw [given_cons] at few
      split at few
      · exact Nat.le_of_succ_le few
      · exact few
    · have few := fits.once name known
      rw [given_cons, if_pos named, List.length_cons] at few
      exact List.length_eq_zero_iff.1 (by omega)
  · rintro ⟨fits, name, named, known, fresh⟩
    refine ⟨fun other among => ?_, fun strict other among text text_eq => ?_,
      fun other among => ?_⟩
    · rcases List.mem_cons.1 among with rfl | later
      · rw [named]
        rfl
      · exact fits.legible other later
    · rcases List.mem_cons.1 among with rfl | later
      · cases named.symm.trans text_eq
        exact known strict
      · exact fits.known strict other later text text_eq
    · rw [given_cons]
      split
      · rename_i same
        cases named.symm.trans same
        rw [fresh among]
        exact Nat.le_refl 1
      · exact fits.once other among

theorem given_eq_nil_iff : given members name = [] ↔ ∀ member ∈ members, nameOf? member ≠ some name := by
  simp [given, List.filter_eq_nil_iff]

/-- A member with an unknown name is skipped, unless the record is strict. -/
theorem fields?_cons_of_unknown (lenient : layout.strict = false)
    (named : nameOf? member = some name) (unknown : name ∉ layout.names) :
    layout.fields? (.object (member :: members)) = layout.fields? (.object members) := by
  have same : layout.Fits (member :: members) ↔ layout.Fits members := by
    rw [fits_cons_iff, named]
    simp [lenient, unknown]
  by_cases fits : layout.Fits members
  · rw [fields?_of_fits fits, fields?_of_fits (same.2 fits)]
    refine congrArg some (List.map_congr_left fun known among => ?_)
    rw [given_cons, named, if_neg]
    rintro ⟨⟩
    exact unknown among
  · rw [fields?_of_not_fits fits, fields?_of_not_fits fun fits' => fits (same.1 fits')]

/-- Members with unknown names are skipped, unless the record is strict. -/
theorem fields?_append_of_unknown (lenient : layout.strict = false)
    (unknown : ∀ member ∈ members, ∃ name, nameOf? member = some name ∧ name ∉ layout.names) :
    layout.fields? (.object (members ++ members')) = layout.fields? (.object members') := by
  induction members with
  | nil => rfl
  | cons member members induction =>
      obtain ⟨name, named, fresh⟩ := unknown member List.mem_cons_self
      rw [List.cons_append, fields?_cons_of_unknown lenient named fresh]
      exact induction fun other among => unknown other (List.mem_cons_of_mem _ among)

/-- A strict record refuses a member with an unknown name. -/
theorem fields?_of_strange (strict : layout.strict = true) (among : member ∈ members)
    (named : nameOf? member = some name) (unknown : name ∉ layout.names) :
    layout.fields? (.object members) = none :=
  fields?_of_not_fits fun fits => unknown (fits.known strict member among name named)

theorem given_length (members : List (List Symbol × Json)) (name : String) :
    (given members name).length = (members.map nameOf?).count (some name) := by
  rw [given, List.length_map, ← List.countP_eq_length_filter, List.count_eq_countP, List.countP_map]
  exact List.countP_congr fun member _ => by simp

/-- A record refuses several members for one of its fields. -/
theorem fields?_of_repeated (known : name ∈ layout.names)
    (many : 1 < (members.map nameOf?).count (some name)) :
    layout.fields? (.object members) = none := by
  rw [← given_length] at many
  exact fields?_of_not_fits fun fits => Nat.not_lt.2 (fits.once name known) many

theorem fields?_cons_of_repeated (named : nameOf? member = some name) (known : name ∈ layout.names)
    (again : some name ∈ members.map nameOf?) :
    layout.fields? (.object (member :: members)) = none := by
  refine fields?_of_repeated known ?_
  rw [List.map_cons, named, List.count_cons_self]
  exact Nat.succ_lt_succ (List.count_pos_iff.2 again)

section Missing

variable (named : nameOf? member = some name) (known : name ∈ layout.names)
  (missing : ∀ other ∈ members, nameOf? other ≠ some name)

include named known missing

/-- A member for a field that is missing may be added. -/
theorem fits_cons_iff_of_missing : layout.Fits (member :: members) ↔ layout.Fits members := by
  rw [fits_cons_iff, named]
  simp [known, given_eq_nil_iff.2 missing]

/-- It gives the field its value. -/
theorem fields?_cons_of_missing (fits : layout.Fits members) :
    layout.fields? (.object (member :: members)) =
      some (layout.names.map (Function.update (fun other => (given members other).head?) name
        (some member.2))) := by
  rw [fields?_of_fits ((fits_cons_iff_of_missing named known missing).2 fits)]
  refine congrArg some (List.map_congr_left fun other among => ?_)
  rw [given_cons, named]
  by_cases here : other = name
  · subst here
    simp
  · rw [if_neg (by simpa using Ne.symm here), Function.update_of_ne here]

theorem fields?_cons_of_missing_of_not_fits (misfit : ¬layout.Fits members) :
    layout.fields? (.object (member :: members)) = none :=
  fields?_of_not_fits (mt (fits_cons_iff_of_missing named known missing).1 misfit)

end Missing

theorem named?_of_listed {names : List String} (listed : members.map nameOf? = names.map some) :
    named? members = some (names.zip (members.map Prod.snd)) := by
  induction members generalizing names with
  | nil => cases names <;> simp_all [named?]
  | cons member members induction =>
      obtain ⟨name, names, rfl⟩ : ∃ name rest, names = name :: rest := by
        cases names with
        | nil => cases listed
        | cons name names => exact ⟨name, names, rfl⟩
      obtain ⟨named, listed⟩ := List.cons.inj listed
      obtain ⟨chars, chars_eq, same⟩ := Option.map_eq_some_iff.1 named
      have later := induction listed
      rw [named?] at later ⊢
      simp [List.mapM_cons, chars_eq, same, later]

/-- An object that gives all fields in order has their values. -/
theorem fields?_of_listed (distinct : layout.names.Nodup)
    (listed : members.map nameOf? = layout.names.map some) :
    layout.fields? (.object members) = some ((members.map Prod.snd).map some) := by
  have complete : (members.map Prod.snd).length = layout.names.length := by
    simpa using congrArg List.length listed
  have same : layout.fields? (.object members) =
      layout.fields? (.record (layout.names.zip (members.map Prod.snd))) := by
    simp only [Json.record, fields?, named?_record, named?_of_listed listed]
  rw [same, fields?_zip distinct complete]

/-- An array with all fields lists them in order. -/
theorem fields?_array {values : List Json} (complete : values.length = layout.names.length) :
    layout.fields? (.array values) = some (values.map some) := by
  simp [fields?, complete]

/-- An array with more items than fields is no record. -/
theorem fields?_array_of_long {values : List Json} (long : layout.names.length < values.length) :
    layout.fields? (.array values) = none := by
  have many : ¬(values.length = layout.names.length ∨
      layout.mayEndEarly = true ∧ values.length < layout.names.length) := by omega
  simp only [fields?, many, if_false]

end Layout

open Documented

/-- How the values of a type are read from the fields of a record. -/
structure Layout.Decoder (layout : Layout) (α : Type) [Documented α] where
  /-- The value with these fields. -/
  decode : List (Option Json) → Option α
  /-- Documents are read as records. -/
  ofJson?_eq : ∀ json, ofJson? json = (layout.fields? json).bind decode
  /-- The names of the fields are different. -/
  distinct : layout.names.Nodup

namespace Layout.Decoder

variable {layout : Layout} {α β : Type} [Documented α] [Documented β]

/-- Missing fields count as these documents; a field without one may not be missing. -/
structure StandsIn (decoder : layout.Decoder α) (standIn? : String → Option Json) : Prop where
  /-- A field without a document to stand in may not be missing. -/
  required : ∀ name ∈ layout.names, standIn? name = none →
    ∀ values : String → Option Json, values name = none →
      decoder.decode (layout.names.map values) = none
  /-- Otherwise it counts as that document. -/
  optional : ∀ name ∈ layout.names, ∀ json, standIn? name = some json →
    ∀ values : String → Option Json, values name = none →
      decoder.decode (layout.names.map values) =
        decoder.decode (layout.names.map (Function.update values name (some json)))

/-- A field is read as a value of some type. -/
structure Reads (decoder : layout.Decoder α) (β : Type) [Documented β] (name : String) : Prop where
  /-- It is one of the fields. -/
  known : name ∈ layout.names
  /-- Only the value that is read matters. -/
  alike : ∀ (values : String → Option Json) (json json' : Json), values name = some json →
    (ofJson? json : Option β) = ofJson? json' →
      decoder.decode (layout.names.map values) =
        decoder.decode (layout.names.map (Function.update values name (some json')))
  /-- There must be one. -/
  refused : ∀ (values : String → Option Json) (json : Json), values name = some json →
    (ofJson? json : Option β) = none → decoder.decode (layout.names.map values) = none

variable {decoder : layout.Decoder α} {standIn? : String → Option Json} {name : String}
  {member member' : List Symbol × Json} {members : List (List Symbol × Json)}

/-- A missing field is refused, unless something stands in for it. -/
theorem StandsIn.ofJson?_of_required (stands : decoder.StandsIn standIn?)
    (known : name ∈ layout.names) (required : standIn? name = none)
    (missing : ∀ member ∈ members, nameOf? member ≠ some name) :
    (ofJson? (.object members) : Option α) = none := by
  rw [decoder.ofJson?_eq]
  by_cases fits : layout.Fits members
  · rw [fields?_of_fits fits, Option.bind_some]
    refine stands.required name known required _ ?_
    rw [given_eq_nil_iff.2 missing]
    rfl
  · rw [fields?_of_not_fits fits]
    rfl

/-- A missing field counts as what stands in for it. -/
theorem StandsIn.ofJson?_of_optional (stands : decoder.StandsIn standIn?)
    (known : name ∈ layout.names) (optional : standIn? name = some member.2)
    (named : nameOf? member = some name)
    (missing : ∀ member ∈ members, nameOf? member ≠ some name) :
    (ofJson? (.object (member :: members)) : Option α) = ofJson? (.object members) := by
  rw [decoder.ofJson?_eq, decoder.ofJson?_eq]
  by_cases fits : layout.Fits members
  · rw [fields?_cons_of_missing named known missing fits, fields?_of_fits fits, Option.bind_some,
      Option.bind_some]
    refine (stands.optional name known _ optional _ ?_).symm
    rw [given_eq_nil_iff.2 missing]
    rfl
  · rw [fields?_cons_of_missing_of_not_fits named known missing fits, fields?_of_not_fits fits]

/-- The value of a field may be replaced by one that is read alike. -/
theorem Reads.ofJson?_congr (reads : decoder.Reads β name) (named : nameOf? member = some name)
    (named' : nameOf? member' = some name)
    (alike : (ofJson? member.2 : Option β) = ofJson? member'.2) :
    (ofJson? (.object (member :: members)) : Option α) =
      ofJson? (.object (member' :: members)) := by
  rw [decoder.ofJson?_eq, decoder.ofJson?_eq]
  by_cases missing : ∀ other ∈ members, nameOf? other ≠ some name
  · by_cases fits : layout.Fits members
    · let values := Function.update (fun other => (given members other).head?) name (some member.2)
      have same := reads.alike values member.2 member'.2 (by simp [values]) alike
      rw [Function.update_idem] at same
      rw [fields?_cons_of_missing named reads.known missing fits,
        fields?_cons_of_missing named' reads.known missing fits, Option.bind_some,
        Option.bind_some, same]
    · rw [fields?_cons_of_missing_of_not_fits named reads.known missing fits,
        fields?_cons_of_missing_of_not_fits named' reads.known missing fits]
  · have again : some name ∈ members.map nameOf? := by simpa using missing
    rw [fields?_cons_of_repeated named reads.known again,
      fields?_cons_of_repeated named' reads.known again]

/-- A field must be readable. -/
theorem Reads.ofJson?_eq_none (reads : decoder.Reads β name) (named : nameOf? member = some name)
    (unread : (ofJson? member.2 : Option β) = none) :
    (ofJson? (.object (member :: members)) : Option α) = none := by
  rw [decoder.ofJson?_eq]
  by_cases missing : ∀ other ∈ members, nameOf? other ≠ some name
  · by_cases fits : layout.Fits members
    · rw [fields?_cons_of_missing named reads.known missing fits, Option.bind_some]
      exact reads.refused _ member.2 (by simp) unread
    · rw [fields?_cons_of_missing_of_not_fits named reads.known missing fits]
      rfl
  · have again : some name ∈ members.map nameOf? := by simpa using missing
    rw [fields?_cons_of_repeated named reads.known again]
    rfl

end Layout.Decoder
end ChannelMembership
