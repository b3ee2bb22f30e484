import ChannelMembership.Document.Codec
import ChannelMembership.Proofs.Document.Reading

/-!
# Values survive being written

A value is read back from the text that is written for it.  A document may be spelled in many ways,
and the written text is the spelling that reading and writing settle on.
-/

namespace ChannelMembership

@[simp]
theorem Symbol.text?_ofText (text : String) : Symbol.text? (Symbol.ofText text) = some text.toList := by
  rw [Symbol.ofText]
  induction text.toList with
  | nil => rfl
  | cons c rest induction => rw [List.map_cons, Symbol.text?, induction, Option.map_some]

namespace Json

@[simp]
theorem text?_ofText (text : String) : (ofText text).text? = some text := by
  simp [ofText, text?]

theorem plain_record {fields : List (String × Json)} (plain : ∀ field ∈ fields, field.2.Plain) :
    (record fields).Plain := by
  refine .object fun member among => ?_
  obtain ⟨field, listed, rfl⟩ := List.mem_map.1 among
  exact plain field listed

end Json

namespace Layout

theorem named?_record (fields : List (String × Json)) :
    named? (fields.map fun (name, value) => (Symbol.ofText name, value)) = some fields := by
  induction fields with
  | nil => rfl
  | cons field fields induction =>
      rw [named?] at induction ⊢
      simp [List.mapM_cons, induction]

/-- A name without a field has no value. -/
theorem valuesOf_eq_nil {members : List (String × Json)} {name : String}
    (absent : name ∉ members.map Prod.fst) : valuesOf members name = [] := by
  rw [valuesOf, List.map_eq_nil_iff, List.filter_eq_nil_iff]
  intro member among same
  exact absent (List.mem_map.2 ⟨member, among, of_decide_eq_true same⟩)

/-- Each name has its own value, and no other. -/
theorem map_valuesOf_zip {names : List String} (distinct : names.Nodup) {values : List Json}
    (complete : values.length = names.length) :
    names.map (valuesOf (names.zip values)) = values.map fun value => [value] := by
  induction names generalizing values with
  | nil => simp [List.length_eq_zero_iff.1 complete]
  | cons name names induction =>
      obtain ⟨value, values, rfl⟩ := List.exists_cons_of_length_eq_add_one complete
      obtain ⟨fresh, distinct⟩ := List.nodup_cons.1 distinct
      have complete : values.length = names.length := by simpa using complete
      have absent : name ∉ (names.zip values).map Prod.fst := by
        rwa [List.map_fst_zip (Nat.le_of_eq complete.symm)]
      have own : valuesOf ((name, value) :: names.zip values) name = [value] := by
        have others := valuesOf_eq_nil absent
        simp only [valuesOf] at others ⊢
        simp [others]
      have other : ∀ later ∈ names,
          valuesOf ((name, value) :: names.zip values) later = valuesOf (names.zip values) later := by
        intro later among
        have different : name ≠ later := fun same => fresh (same ▸ among)
        simp [valuesOf, different]
      rw [List.zip_cons_cons, List.map_cons, List.map_cons, own, List.map_congr_left other,
        induction distinct complete]

theorem valuesOf_perm {members members' : List (String × Json)} (order : members.Perm members')
    (name : String) : (valuesOf members name).Perm (valuesOf members' name) :=
  (order.filter _).map _

/-- An object with one member for each field is a record, in whatever order the members stand. -/
theorem fields?_record {layout : Layout} (distinct : layout.names.Nodup) {values : List Json}
    (complete : values.length = layout.names.length) {members : List (String × Json)}
    (order : members.Perm (layout.names.zip values)) :
    layout.fields? (.record members) = some (values.map some) := by
  have each : layout.names.map (valuesOf members) = values.map fun value => [value] := by
    rw [← map_valuesOf_zip distinct complete]
    refine List.map_congr_left fun name among => ?_
    obtain ⟨value, -, own⟩ : ∃ value ∈ values, [value] = valuesOf (layout.names.zip values) name := by
      have listed := List.mem_map_of_mem (f := valuesOf (layout.names.zip values)) among
      rw [map_valuesOf_zip distinct complete] at listed
      simpa using listed
    rw [← own]
    exact List.perm_singleton.1 (own ▸ valuesOf_perm order name)
  have known : ∀ member ∈ members, member.1 ∈ layout.names :=
    fun member among => (List.of_mem_zip (order.mem_iff.1 among)).1
  have once : ∀ name ∈ layout.names, (valuesOf members name).length ≤ 1 := by
    intro name among
    have listed := List.mem_map_of_mem (f := valuesOf members) among
    rw [each] at listed
    obtain ⟨value, -, own⟩ := List.mem_map.1 listed
    simp [← own]
  have heads : layout.names.map (fun name => (valuesOf members name).head?) = values.map some := by
    have mapped := congrArg (List.map List.head?) each
    simpa only [List.map_map, Function.comp_def, List.head?_cons] using mapped
  rw [Json.record, fields?, named?_record]
  simpa [heads] using ⟨fun _ name value => known (name, value), once⟩

end Layout

open Documented

/-- The values of a type are read back from their documents. -/
class Documented.Lawful (α : Type) [Documented α] : Prop where
  /-- The document of a value has natural numbers only. -/
  plain (value : α) : (toJson value).Plain
  /-- A value is read back from its document. -/
  ofJson?_toJson (value : α) : ofJson? (toJson value) = some value

attribute [simp] Lawful.ofJson?_toJson

instance (bound : Nat) : Lawful (Fin bound) where
  plain n := .natural n.val
  ofJson?_toJson n := by simp [toJson, ofJson?]

instance : Lawful String where
  plain _ := .string _
  ofJson?_toJson := Json.text?_ofText

instance {α : Type} [Documented α] [Lawful α] : Lawful (List α) where
  plain values := .array (by simpa using fun value _ => Lawful.plain value)
  ofJson?_toJson values := by
    simp only [toJson, ofJson?]
    induction values with
    | nil => rfl
    | cons value values induction => simp [List.mapM_cons, induction]

instance : Lawful UserKey where
  plain user := .natural user.value.val
  ofJson?_toJson user := by
    change (ofJson? (toJson user.value)).map UserKey.mk = some user
    simp

instance : Lawful Connection where
  plain _ := .string _
  ofJson?_toJson connection := by
    change (ofJson? (toJson connection.id)).map Connection.mk = some connection
    simp

instance : Lawful Channel where
  plain _ := .string _
  ofJson?_toJson channel := by
    change (ofJson? (toJson channel.name)).map Channel.mk = some channel
    simp

/-- A key is a number, and so it is not mistaken for none. -/
instance : Lawful (Option UserKey) where
  plain
    | none => .null
    | some user => Lawful.plain user
  ofJson?_toJson
    | none => rfl
    | some user => congrArg (Option.map some) (Lawful.ofJson?_toJson user)

/-- A record is read from the object that lists its fields in order. -/
theorem Layout.fields?_zip {layout : Layout} (distinct : layout.names.Nodup) {values : List Json}
    (complete : values.length = layout.names.length) :
    layout.fields? (.record (layout.names.zip values)) = some (values.map some) :=
  fields?_record distinct complete (.refl _)

instance : Lawful Claim where
  plain claim := Json.plain_record (by simp [Lawful.plain])
  ofJson?_toJson claim := by
    change (Claim.layout.fields? (.record (Claim.layout.names.zip
      [toJson claim.kind, toJson claim.value]))).bind _ = some claim
    rw [Layout.fields?_zip (by decide) rfl]
    simp

instance : Lawful Principal where
  plain principal := Json.plain_record (by simp [Lawful.plain])
  ofJson?_toJson principal := by
    change (Principal.layout.fields? (.record (Principal.layout.names.zip
      [toJson principal.user, toJson principal.claims]))).bind _ = some principal
    rw [Layout.fields?_zip (by decide) rfl]
    simp

/-- The document of a kind of change is a string, and so it is not mistaken for an object. -/
instance : Lawful Change where
  plain _ := .string _
  ofJson?_toJson change := by
    change ((Json.ofText change.name).text?.bind fun name => Change.ofName? name) = some change
    simp

instance : Lawful Notice where
  plain notice := Json.plain_record (by simp [Lawful.plain])
  ofJson?_toJson notice := by
    change (Notice.layout.fields? (.record (Notice.layout.names.zip
      [toJson notice.source, toJson notice.change, toJson notice.key]))).bind _ = some notice
    rw [Layout.fields?_zip (by decide) rfl]
    simp

/-- Nanoseconds that do not make up a second are not carried over. -/
theorem Duration.ofParts?_parts (duration : Duration) :
    ofParts? duration.seconds.val duration.nanoseconds.val = some duration := by
  have whole : duration.nanoseconds.val / 1000000000 = 0 :=
    Nat.div_eq_of_lt duration.nanoseconds.isLt
  have part : duration.nanoseconds.val % 1000000000 = duration.nanoseconds.val :=
    Nat.mod_eq_of_lt duration.nanoseconds.isLt
  simp [ofParts?, whole, part, duration.seconds.isLt]

instance : Lawful Duration where
  plain duration := Json.plain_record (by simp [Lawful.plain])
  ofJson?_toJson duration := by
    have nanoseconds : (ofJson? (toJson duration.nanoseconds) : Option (Fin 0x100000000)) =
        some (duration.nanoseconds.castLE (by decide)) := by
      have small : duration.nanoseconds.val < 0x100000000 :=
        Nat.lt_trans duration.nanoseconds.isLt (by decide)
      simp [toJson, ofJson?, small]
      rfl
    change (Duration.layout.fields? (.record (Duration.layout.names.zip
      [toJson duration.seconds, toJson duration.nanoseconds]))).bind _ = some duration
    rw [Layout.fields?_zip (by decide) rfl]
    simp [nanoseconds, Duration.ofParts?_parts]

instance : Lawful Limits where
  plain limits := Json.plain_record (by simp [Lawful.plain])
  ofJson?_toJson limits := by
    change (Limits.layout.fields? (.record (Limits.layout.names.zip [toJson limits.handshake,
      toJson limits.callsUnderWay, toJson limits.changesQueued]))).bind _ = some limits
    rw [Layout.fields?_zip (by decide) rfl]
    simp [fieldOr]

namespace Documented

variable {α : Type} [Documented α]

/-- A value is read back from its text. -/
theorem read?_write [Lawful α] (value : α) : read? (write value) = some value := by
  rw [read?, write, String.toList_ofList, (Lawful.plain value).parse?_compact, Option.bind_some,
    Lawful.ofJson?_toJson]

/-- Reading and writing settle on one spelling for each value. -/
structure RoundTrips (α : Type) [Documented α] : Prop where
  /-- A value is read back from its text. -/
  written (value : α) : read? (write value) = some value
  /-- A value that was read, from whatever spelling, is read back from the text written for it. -/
  reread (text : String) (value : α) : read? text = some value → read? (write value) = some value
  /-- The text written for a value that was read is read and written as itself. -/
  settled (text : String) (value : α) : read? text = some value →
    (read? (write value) : Option α).map write = some (write value)

theorem roundTrips [Lawful α] : RoundTrips α where
  written := read?_write
  reread _ value _ := read?_write value
  settled _ value _ := by rw [read?_write, Option.map_some]

end Documented

/-- Keys, connections, channels, claims, principals, kinds of change, notices and limits survive
being written and read, whatever text they were first read from. -/
theorem documents_round_trip :
    RoundTrips UserKey ∧ RoundTrips Connection ∧ RoundTrips Channel ∧ RoundTrips Claim ∧
      RoundTrips Principal ∧ RoundTrips Change ∧ RoundTrips Notice ∧ RoundTrips Limits :=
  ⟨roundTrips, roundTrips, roundTrips, roundTrips, roundTrips, roundTrips, roundTrips, roundTrips⟩

-- An array that ends early, blanks, members out of order, and nanoseconds to be carried over.
example : (read? "[ \x7b\"nanos\": 2000000001, \"secs\": 1\x7d ]" : Option Limits) =
    some { Limits.standard with handshake := ⟨3, 1⟩ } := by decide +kernel

end ChannelMembership
