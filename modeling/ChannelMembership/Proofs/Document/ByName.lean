import ChannelMembership.Proofs.Document.Fields

/-!
# Records are read by name

Claims, principals, notices, limits and durations are records.  Which value a text denotes depends only
on what its members give for the known names, at every level: the order of the members, blanks, other
spellings, unknown members and missing ones do not matter beyond that, and an array of all values in
order stands for the object.
-/

namespace ChannelMembership

open Documented

namespace Json

/-- A document as it is written somewhere. -/
structure Piece where
  /-- The text. -/
  text : List Char
  /-- The document. -/
  json : Json
  /-- The text denotes the document. -/
  written : Written text json

/-- A member of an object as it is written. -/
structure Entry where
  /-- The text of the name. -/
  label : List Char
  /-- The symbols of the name. -/
  symbols : List Symbol
  /-- The text names these symbols. -/
  labelled : WrittenLabel label symbols
  /-- The value. -/
  value : Piece

namespace Entry

/-- The texts of a member. -/
def texts (entry : Entry) : List Char × List Char := (entry.label, entry.value.text)

/-- The member itself. -/
def member (entry : Entry) : List Symbol × Json := (entry.symbols, entry.value.json)

/-- The name of a member, if it denotes a text. -/
def name? (entry : Entry) : Option String := Layout.nameOf? entry.member

/-- A member whose name is none of the names of the fields. -/
def Unknown (layout : Layout) (entry : Entry) : Prop :=
  ∃ name, entry.name? = some name ∧ name ∉ layout.names

end Entry

/-- The text of an object with these members, with blanks around it. -/
def IsObject (text : String) (entries : List Entry) : Prop :=
  ∃ before inner after, AllBlank before ∧ AllBlank inner ∧ AllBlank after ∧
    text.toList = before ++ '{' :: (inner ++ membersText (entries.map Entry.texts)) ++ after

/-- The text of an array with these items, with blanks around it. -/
def IsArray (text : String) (pieces : List Piece) : Prop :=
  ∃ before inner after, AllBlank before ∧ AllBlank inner ∧ AllBlank after ∧
    text.toList = before ++ '[' :: (inner ++ itemsText (pieces.map Piece.text)) ++ after

theorem IsObject.parse? {text : String} {entries : List Entry} (isObject : IsObject text entries) :
    parse? text.toList = some (object (entries.map Entry.member)) := by
  obtain ⟨before, inner, after, blank, inner_blank, blank', same⟩ := isObject
  have written : List.Forall₂ WrittenMember (entries.map Entry.texts)
      (entries.map Entry.member) := by
    rw [List.forall₂_map_left_iff, List.forall₂_map_right_iff]
    exact List.forall₂_same.2 fun entry _ => ⟨entry.labelled, entry.value.written⟩
  exact parse?_eq_some_iff.2
    ⟨_, after, same, (spells_object inner_blank written).pad blank, blank'⟩

theorem IsArray.parse? {text : String} {pieces : List Piece} (isArray : IsArray text pieces) :
    parse? text.toList = some (array (pieces.map Piece.json)) := by
  obtain ⟨before, inner, after, blank, inner_blank, blank', same⟩ := isArray
  have written : List.Forall₂ Written (pieces.map Piece.text) (pieces.map Piece.json) := by
    rw [List.forall₂_map_left_iff, List.forall₂_map_right_iff]
    exact List.forall₂_same.2 fun piece _ => piece.written
  exact parse?_eq_some_iff.2
    ⟨_, after, same, (spells_array inner_blank written).pad blank, blank'⟩

theorem exists_entries {texts : List (List Char × List Char)}
    {members : List (List Symbol × Json)} (written : List.Forall₂ WrittenMember texts members) :
    ∃ entries : List Entry, entries.map Entry.texts = texts ∧
      entries.map Entry.member = members := by
  induction written with
  | nil => exact ⟨[], rfl, rfl⟩
  | @cons texts member _ _ first later induction =>
      obtain ⟨entries, rfl, rfl⟩ := induction
      exact ⟨⟨texts.1, member.1, first.1, texts.2, member.2, first.2⟩ :: entries, rfl, rfl⟩

theorem exists_pieces {texts : List (List Char)} {items : List Json}
    (written : List.Forall₂ Written texts items) :
    ∃ pieces : List Piece, pieces.map Piece.text = texts ∧ pieces.map Piece.json = items := by
  induction written with
  | nil => exact ⟨[], rfl, rfl⟩
  | @cons text item _ _ first later induction =>
      obtain ⟨pieces, rfl, rfl⟩ := induction
      exact ⟨⟨text, item, first⟩ :: pieces, rfl, rfl⟩

/-- Every text that denotes an object has been put together from members. -/
theorem exists_isObject {text : String} {members : List (List Symbol × Json)}
    (parsed : Json.parse? text.toList = some (object members)) :
    ∃ entries, IsObject text entries ∧ entries.map Entry.member = members := by
  obtain ⟨before, used, after, same, blank, blank', shape⟩ := exists_shape parsed
  cases shape with
  | number numeric starts read => cases numeric
  | @object inner texts _ inner_blank written =>
      obtain ⟨entries, rfl, rfl⟩ := exists_entries written
      exact ⟨entries, ⟨before, inner, after, blank, inner_blank, blank', same⟩, rfl⟩

/-- Every text that denotes an array has been put together from items. -/
theorem exists_isArray {text : String} {items : List Json}
    (parsed : Json.parse? text.toList = some (array items)) :
    ∃ pieces, IsArray text pieces ∧ pieces.map Piece.json = items := by
  obtain ⟨before, used, after, same, blank, blank', shape⟩ := exists_shape parsed
  cases shape with
  | number numeric starts read => cases numeric
  | @array inner texts _ inner_blank written =>
      obtain ⟨pieces, rfl, rfl⟩ := exists_pieces written
      exact ⟨pieces, ⟨before, inner, after, blank, inner_blank, blank', same⟩, rfl⟩

end Json

open Json

section Reading

variable {α : Type} [Documented α] {text : String}

/-- The value that a piece denotes. -/
def Json.Piece.read? (α : Type) [Documented α] (piece : Piece) : Option α :=
  Documented.read? (String.ofList piece.text)

theorem Json.Piece.read?_eq (piece : Piece) : piece.read? α = ofJson? piece.json := by
  rw [read?, Documented.read?, String.toList_ofList, parse?_eq_some_iff.2 piece.written,
    Option.bind_some]

theorem Json.IsObject.read? {entries : List Entry} (isObject : IsObject text entries) :
    (Documented.read? text : Option α) = ofJson? (object (entries.map Entry.member)) := by
  rw [Documented.read?, isObject.parse?, Option.bind_some]

theorem Json.IsArray.read? {pieces : List Piece} (isArray : IsArray text pieces) :
    (Documented.read? text : Option α) = ofJson? (array (pieces.map Piece.json)) := by
  rw [Documented.read?, isArray.parse?, Option.bind_some]

end Reading

/-- Texts of a record are read by the names of its fields.  Missing fields count as the documents
that stand in for them, and the values of all fields in order make the value of the record. -/
structure ReadByName (α : Type) [Documented α] (layout : Layout) (standIn? : String → Option Json)
    (ofPieces? : List Piece → Option α) : Prop where
  /-- The order of the members does not matter. -/
  reordered {text text' : String} {entries entries' : List Entry} : IsObject text entries →
    IsObject text' entries' → entries.Perm entries' → (read? text : Option α) = read? text'
  /-- Members with unknown names are skipped wherever they stand, unless the record is strict. -/
  skipped {text text' : String} {entries entries' unknown : List Entry} : layout.strict = false →
    IsObject text entries → IsObject text' entries' → entries'.Perm (unknown ++ entries) →
    (∀ entry ∈ unknown, entry.Unknown layout) → (read? text' : Option α) = read? text
  /-- A strict record refuses them. -/
  strange {text : String} {entries : List Entry} {entry : Entry} : layout.strict = true →
    IsObject text entries → entry ∈ entries → entry.Unknown layout →
    (read? text : Option α) = none
  /-- A known name must not repeat. -/
  repeated {text : String} {entries : List Entry} {name : String} : name ∈ layout.names →
    IsObject text entries → 1 < (entries.map Entry.name?).count (some name) →
    (read? text : Option α) = none
  /-- A field may not be missing, unless something stands in for it. -/
  required {text : String} {entries : List Entry} {name : String} : name ∈ layout.names →
    standIn? name = none → IsObject text entries → (∀ entry ∈ entries, entry.name? ≠ some name) →
    (read? text : Option α) = none
  /-- A missing field counts as what stands in for it. -/
  optional {text text' : String} {entries entries' : List Entry} {entry : Entry} {name : String} :
    name ∈ layout.names → standIn? name = some entry.value.json → entry.name? = some name →
    IsObject text entries → IsObject text' entries' → (∀ other ∈ entries, other.name? ≠ some name) →
    entries'.Perm (entry :: entries) → (read? text : Option α) = read? text'
  /-- The values of an object with all fields, and possibly others, make its value. -/
  complete {text : String} {entries listed unknown : List Entry} : IsObject text entries →
    listed.map Entry.name? = layout.names.map some → entries.Perm (unknown ++ listed) →
    (∀ entry ∈ unknown, entry.Unknown layout) → (layout.strict = true → unknown = []) →
    read? text = ofPieces? (listed.map Entry.value)
  /-- An array of these values in order stands for the object. -/
  listed {text text' : String} {entries listed unknown : List Entry} : IsObject text entries →
    listed.map Entry.name? = layout.names.map some → entries.Perm (unknown ++ listed) →
    (∀ entry ∈ unknown, entry.Unknown layout) → (layout.strict = true → unknown = []) →
    IsArray text' (listed.map Entry.value) → (read? text' : Option α) = read? text
  /-- An array with more items than fields is refused. -/
  long {text : String} {pieces : List Piece} : IsArray text pieces →
    layout.names.length < pieces.length → (read? text : Option α) = none
  /-- Nothing but objects and arrays is read. -/
  covered {text : String} {value : α} : read? text = some value →
    (∃ entries, IsObject text entries) ∨ ∃ pieces, IsArray text pieces

/-- A field of a record is read as a value of some type, and only this value matters. -/
structure HasField (α β : Type) [Documented α] [Documented β] (name : String) : Prop where
  /-- The value may be written in another way. -/
  alike {text text' : String} {before after : List Entry} {entry entry' : Entry} :
    IsObject text (before ++ entry :: after) → IsObject text' (before ++ entry' :: after) →
    entry.name? = some name → entry'.name? = some name →
    entry.value.read? β = entry'.value.read? β → (read? text : Option α) = read? text'
  /-- It must be readable. -/
  refused {text : String} {entries : List Entry} {entry : Entry} : IsObject text entries →
    entry ∈ entries → entry.name? = some name → entry.value.read? β = none →
    (read? text : Option α) = none

/-- Lists are read from arrays item by item. -/
structure ReadItemByItem (β : Type) [Documented β] : Prop where
  /-- The values are those that the items denote. -/
  items {text : String} {pieces : List Piece} : IsArray text pieces →
    (read? text : Option (List β)) = pieces.mapM (Piece.read? β)
  /-- Nothing but arrays is read. -/
  covered {text : String} {values : List β} : read? text = some values →
    ∃ pieces, IsArray text pieces

theorem readItemByItem {β : Type} [Documented β] : ReadItemByItem β where
  items {text pieces} isArray := by
    have each : Piece.read? β = ofJson? ∘ Piece.json := funext Piece.read?_eq
    rw [isArray.read?, each, ← List.mapM_map]
    rfl
  covered read := by
    obtain ⟨json, parsed, decoded⟩ := Option.bind_eq_some_iff.1 read
    cases json with
    | array items =>
        obtain ⟨pieces, isArray, -⟩ := exists_isArray parsed
        exact ⟨pieces, isArray⟩
    | _ => cases decoded

namespace Layout.Decoder

variable {layout : Layout} {α β : Type} [Documented α] [Documented β] {decoder : layout.Decoder α}
  {standIn? : String → Option Json} {name : String}

/-- Members that agree in their fields denote the same. -/
theorem ofJson?_congr (decoder : layout.Decoder α) {json json' : Json}
    (same : layout.fields? json = layout.fields? json') :
    (ofJson? json : Option α) = ofJson? json' := by
  rw [decoder.ofJson?_eq, decoder.ofJson?_eq, same]

/-- What is no record denotes nothing. -/
theorem ofJson?_eq_none (decoder : layout.Decoder α) {json : Json}
    (misfit : layout.fields? json = none) : (ofJson? json : Option α) = none := by
  rw [decoder.ofJson?_eq, misfit, Option.bind_none]

/-- An object with all fields, and possibly others, has the fields of the array of their values. -/
theorem fields?_of_complete (decoder : layout.Decoder α) {entries listed unknown : List Entry}
    (inOrder : listed.map Entry.name? = layout.names.map some)
    (order : entries.Perm (unknown ++ listed)) (fresh : ∀ entry ∈ unknown, entry.Unknown layout)
    (strict : layout.strict = true → unknown = []) :
    layout.fields? (object (entries.map Entry.member)) =
      some ((listed.map Entry.value).map fun piece => some piece.json) := by
  have skipped : layout.fields? (object ((unknown ++ listed).map Entry.member)) =
      layout.fields? (object (listed.map Entry.member)) := by
    cases refusing : layout.strict with
    | true => rw [strict refusing, List.nil_append]
    | false =>
        rw [List.map_append]
        exact fields?_append_of_unknown refusing (List.forall_mem_map.2 fresh)
  rw [fields?_perm layout (order.map _), skipped,
    fields?_of_listed decoder.distinct (by rwa [List.map_map])]
  simp [Entry.member]

/-- A record with a document that stands in for each optional field is read by name. -/
theorem StandsIn.readByName (stands : decoder.StandsIn standIn?) {ofPieces? : List Piece → Option α}
    (made : ∀ pieces : List Piece,
      decoder.decode (pieces.map fun piece => some piece.json) = ofPieces? pieces) :
    ReadByName α layout standIn? ofPieces? where
  reordered isObject isObject' order := by
    rw [isObject.read?, isObject'.read?]
    exact decoder.ofJson?_congr (fields?_perm layout (order.map _))
  skipped lenient isObject isObject' order unknown := by
    rw [isObject.read?, isObject'.read?]
    refine decoder.ofJson?_congr ((fields?_perm layout (order.map _)).trans ?_)
    rw [List.map_append]
    exact fields?_append_of_unknown lenient (List.forall_mem_map.2 unknown)
  strange strict isObject among := by
    rintro ⟨name, named, unknown⟩
    rw [isObject.read?]
    exact decoder.ofJson?_eq_none
      (fields?_of_strange strict (List.mem_map_of_mem among) named unknown)
  repeated known isObject many := by
    rw [isObject.read?]
    refine decoder.ofJson?_eq_none (fields?_of_repeated known ?_)
    rwa [List.map_map]
  required known required isObject missing := by
    rw [isObject.read?]
    exact stands.ofJson?_of_required known required (List.forall_mem_map.2 missing)
  optional known optional named isObject isObject' missing order := by
    rw [isObject.read?, isObject'.read?]
    rw [decoder.ofJson?_congr (fields?_perm layout (order.map Entry.member)), List.map_cons]
    exact (stands.ofJson?_of_optional known optional named (List.forall_mem_map.2 missing)).symm
  complete isObject inOrder order fresh strict := by
    rw [isObject.read?, decoder.ofJson?_eq,
      decoder.fields?_of_complete inOrder order fresh strict, Option.bind_some, made]
  listed isObject inOrder order fresh strict isArray := by
    have complete := congrArg List.length inOrder
    rw [isObject.read?, isArray.read?]
    refine decoder.ofJson?_congr ?_
    rw [decoder.fields?_of_complete inOrder order fresh strict,
      fields?_array (by simpa using complete), List.map_map]
    rfl
  long isArray long := by
    rw [isArray.read?]
    exact decoder.ofJson?_eq_none (fields?_array_of_long (by simpa using long))
  covered read := by
    obtain ⟨json, parsed, decoded⟩ := Option.bind_eq_some_iff.1 read
    cases json with
    | object members =>
        obtain ⟨entries, isObject, -⟩ := exists_isObject parsed
        exact .inl ⟨entries, isObject⟩
    | array items =>
        obtain ⟨pieces, isArray, -⟩ := exists_isArray parsed
        exact .inr ⟨pieces, isArray⟩
    | _ => rw [decoder.ofJson?_eq] at decoded; cases decoded

/-- What a decoder reads from a field is all that matters of it. -/
theorem Reads.hasField (reads : decoder.Reads β name) : HasField α β name where
  alike isObject isObject' named named' same := by
    rw [Piece.read?_eq, Piece.read?_eq] at same
    rw [isObject.read?, isObject'.read?, List.map_append, List.map_append, List.map_cons,
      List.map_cons, decoder.ofJson?_congr (fields?_perm layout List.perm_middle),
      decoder.ofJson?_congr (fields?_perm layout List.perm_middle)]
    exact reads.ofJson?_congr named named' same
  refused isObject among named unread := by
    rw [Piece.read?_eq] at unread
    obtain ⟨before, after, rfl⟩ := List.append_of_mem among
    rw [isObject.read?, List.map_append, List.map_cons,
      decoder.ofJson?_congr (fields?_perm layout List.perm_middle)]
    exact reads.ofJson?_eq_none named unread

end Layout.Decoder

/-- Nothing stands in for a field where no field may be missing. -/
theorem Layout.Decoder.standsIn_none {layout : Layout} {α : Type} [Documented α]
    {decoder : layout.Decoder α} (complete : ∀ values, none ∈ values → decoder.decode values = none) :
    decoder.StandsIn fun _ => none where
  required name known _ _ missing :=
    complete _ (List.mem_map.2 ⟨name, known, missing⟩)
  optional _ _ _ standsIn := nomatch standsIn

def Claim.decoder : Claim.layout.Decoder Claim where
  decode
    | [some kind, some value] => do some ⟨← ofJson? kind, ← ofJson? value⟩
    | _ => none
  ofJson?_eq _ := rfl
  distinct := by decide

/-- A claim is made of two strings. -/
def Claim.ofPieces? : List Piece → Option Claim
  | [kind, value] => do some ⟨← kind.read? String, ← value.read? String⟩
  | _ => none

theorem Claim.decode_pieces : ∀ pieces : List Piece,
    decoder.decode (pieces.map fun piece => some piece.json) = ofPieces? pieces
  | [_, _] => by simp [decoder, ofPieces?, Piece.read?_eq]
  | [] | [_] | _ :: _ :: _ :: _ => rfl

theorem Claim.standsIn : Claim.decoder.StandsIn fun _ => none :=
  Layout.Decoder.standsIn_none fun values missing => by
    simp only [decoder]
    split
    · simp at missing
    · rfl

def Principal.decoder : Principal.layout.Decoder Principal where
  decode
    | [user, some claims] => do some ⟨← ofJson? (user.getD .null), ← ofJson? claims⟩
    | _ => none
  ofJson?_eq _ := rfl
  distinct := by decide

/-- A principal is made of a key, which may be none, and claims. -/
def Principal.ofPieces? : List Piece → Option Principal
  | [user, claims] => do some ⟨← user.read? (Option UserKey), ← claims.read? (List Claim)⟩
  | _ => none

theorem Principal.decode_pieces : ∀ pieces : List Piece,
    decoder.decode (pieces.map fun piece => some piece.json) = ofPieces? pieces
  | [_, _] => by simp [decoder, ofPieces?, Piece.read?_eq]
  | [] | [_] | _ :: _ :: _ :: _ => rfl

/-- A missing key is null. -/
def Principal.standIn? : String → Option Json
  | "user_key" => some .null
  | _ => none

theorem Principal.standsIn : Principal.decoder.StandsIn standIn? where
  required name known required values missing := by
    obtain rfl | rfl : name = "user_key" ∨ name = "claims" := by
      simpa [layout, Layout.plain] using known
    · cases required
    · simp [decoder, layout, Layout.plain, missing]
  optional name known json standsIn values missing := by
    obtain rfl | rfl : name = "user_key" ∨ name = "claims" := by
      simpa [layout, Layout.plain] using known
    · cases standsIn
      simp only [decoder, layout, Layout.plain, List.map_cons, List.map_nil, missing,
        Function.update_self, Function.update_of_ne (by decide : "claims" ≠ "user_key")]
      cases values "claims" <;> rfl
    · cases standsIn

theorem Principal.reads_claims : Principal.decoder.Reads (List Claim) "claims" where
  known := by decide
  alike values json json' given same := by
    simp [decoder, layout, Layout.plain, given, same]
  refused values json given unread := by
    simp [decoder, layout, Layout.plain, given, unread]

def Notice.decoder : Notice.layout.Decoder Notice where
  decode
    | [some source, some change, some key] => do
      some ⟨← ofJson? source, ← ofJson? change, ← ofJson? key⟩
    | _ => none
  ofJson?_eq _ := rfl
  distinct := by decide

/-- A notice is made of a source, a kind of change and a key. -/
def Notice.ofPieces? : List Piece → Option Notice
  | [source, change, key] => do
    some ⟨← source.read? Channel, ← change.read? Change, ← key.read? (Fin keyBound)⟩
  | _ => none

theorem Notice.decode_pieces : ∀ pieces : List Piece,
    decoder.decode (pieces.map fun piece => some piece.json) = ofPieces? pieces
  | [_, _, _] => by simp [decoder, ofPieces?, Piece.read?_eq]
  | [] | [_] | [_, _] | _ :: _ :: _ :: _ :: _ => rfl

theorem Notice.standsIn : Notice.decoder.StandsIn fun _ => none :=
  Layout.Decoder.standsIn_none fun values missing => by
    simp only [decoder]
    split
    · simp at missing
    · rfl

def Duration.decoder : Duration.layout.Decoder Duration where
  decode
    | [some seconds, some nanoseconds] => do
      let seconds : Fin wordBound ← ofJson? seconds
      let nanoseconds : Fin 0x100000000 ← ofJson? nanoseconds
      Duration.ofParts? seconds.val nanoseconds.val
    | _ => none
  ofJson?_eq _ := rfl
  distinct := by decide

/-- A duration is made of words of seconds and of nanoseconds. -/
def Duration.ofPieces? : List Piece → Option Duration
  | [seconds, nanoseconds] => do
    let seconds ← seconds.read? (Fin wordBound)
    let nanoseconds ← nanoseconds.read? (Fin 0x100000000)
    ofParts? seconds.val nanoseconds.val
  | _ => none

theorem Duration.decode_pieces : ∀ pieces : List Piece,
    decoder.decode (pieces.map fun piece => some piece.json) = ofPieces? pieces
  | [_, _] => by simp [decoder, ofPieces?, Piece.read?_eq]
  | [] | [_] | _ :: _ :: _ :: _ => rfl

theorem Duration.standsIn : Duration.decoder.StandsIn fun _ => none :=
  Layout.Decoder.standsIn_none fun values missing => by
    simp only [decoder]
    split
    · simp at missing
    · rfl

def Limits.decoder : Limits.layout.Decoder Limits where
  decode
    | [handshake, callsUnderWay, changesQueued] => do
      some ⟨← fieldOr Limits.standard.handshake handshake,
        ← fieldOr Limits.standard.callsUnderWay callsUnderWay,
        ← fieldOr Limits.standard.changesQueued changesQueued⟩
    | _ => none
  ofJson?_eq _ := rfl
  distinct := by decide

/-- Limits are made of a duration and two counts. -/
def Limits.ofPieces? : List Piece → Option Limits
  | [handshake, callsUnderWay, changesQueued] => do
    some ⟨← handshake.read? Duration, ← callsUnderWay.read? (Fin wordBound),
      ← changesQueued.read? (Fin wordBound)⟩
  | _ => none

theorem Limits.decode_pieces : ∀ pieces : List Piece,
    decoder.decode (pieces.map fun piece => some piece.json) = ofPieces? pieces
  | [_, _, _] => by simp [decoder, ofPieces?, Piece.read?_eq, fieldOr]
  | [] | [_] | [_, _] | _ :: _ :: _ :: _ :: _ => rfl

/-- A missing limit is the standard one. -/
def Limits.standIn? : String → Option Json
  | "handshake_timeout" => some (toJson standard.handshake)
  | "max_concurrent_gateway_ops" => some (toJson standard.callsUnderWay)
  | "change_queue_capacity" => some (toJson standard.changesQueued)
  | _ => none

theorem Limits.standsIn : Limits.decoder.StandsIn standIn? where
  required name known required values missing := by
    obtain rfl | rfl | rfl : name = "handshake_timeout" ∨ name = "max_concurrent_gateway_ops" ∨
        name = "change_queue_capacity" := by simpa [layout] using known
    all_goals cases required
  optional name known json standsIn values missing := by
    obtain rfl | rfl | rfl : name = "handshake_timeout" ∨ name = "max_concurrent_gateway_ops" ∨
        name = "change_queue_capacity" := by simpa [layout] using known
    all_goals
      cases standsIn
      simp [decoder, layout, missing, fieldOr]

theorem Limits.reads_handshake : Limits.decoder.Reads Duration "handshake_timeout" where
  known := by decide
  alike values json json' given same := by
    simp [decoder, layout, given, fieldOr, same]
  refused values json given unread := by
    simp [decoder, layout, given, fieldOr, unread]

/-- Claims, principals, notices, limits and durations are read by name at every depth: a principal's
claims matter only by the claims that are read from them one by one, and the handshake limit only by
the duration that is read from it. -/
theorem structures_read_by_name :
    ReadByName Claim Claim.layout (fun _ => none) Claim.ofPieces? ∧
      ReadByName Principal Principal.layout Principal.standIn? Principal.ofPieces? ∧
      ReadByName Notice Notice.layout (fun _ => none) Notice.ofPieces? ∧
      ReadByName Limits Limits.layout Limits.standIn? Limits.ofPieces? ∧
      ReadByName Duration Duration.layout (fun _ => none) Duration.ofPieces? ∧
      HasField Principal (List Claim) "claims" ∧
      ReadItemByItem Claim ∧
      HasField Limits Duration "handshake_timeout" :=
  ⟨Claim.standsIn.readByName Claim.decode_pieces,
    Principal.standsIn.readByName Principal.decode_pieces,
    Notice.standsIn.readByName Notice.decode_pieces,
    Limits.standsIn.readByName Limits.decode_pieces,
    Duration.standsIn.readByName Duration.decode_pieces,
    Principal.reads_claims.hasField, readItemByItem, Limits.reads_handshake.hasField⟩

-- A claim as an array inside a principal without a key, after a member that is skipped.
example : (read? "\x7b\"note\": [1e9, \x7b\x7d], \"claims\": [[\"role\", \"editor\"]]\x7d" :
    Option Principal) = some ⟨none, [⟨"role", "editor"⟩]⟩ := by decide +kernel

end ChannelMembership
