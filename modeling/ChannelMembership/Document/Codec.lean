import ChannelMembership.Document.Reader
import ChannelMembership.Document.Record
import ChannelMembership.Limits
import ChannelMembership.Transport.Notice

/-!
# Values as documents

How identities, notices and limits are written as documents and read back.  Keys are plain numbers,
names are plain strings, and everything with fields is a record.
-/

namespace ChannelMembership

/-- Values of a type can be written as documents and read back. -/
class Documented (α : Type) where
  /-- The document of a value. -/
  toJson : α → Json
  /-- The value of a document. -/
  ofJson? : Json → Option α

namespace Documented

/-- The compact text of a value. -/
def write {α : Type} [Documented α] (value : α) : String :=
  String.ofList (toJson value).compact

/-- The value that a text denotes. -/
def read? {α : Type} [Documented α] (text : String) : Option α :=
  (Json.parse? text.toList).bind ofJson?

end Documented

open Documented

/-- A natural number below a bound. -/
instance (bound : Nat) : Documented (Fin bound) where
  toJson n := .natural n.val
  ofJson?
    | .natural n => if h : n < bound then some ⟨n, h⟩ else none
    | _ => none

instance : Documented String where
  toJson := Json.ofText
  ofJson? := Json.text?

/-- An absent value is null. -/
instance {α : Type} [Documented α] : Documented (Option α) where
  toJson
    | none => .null
    | some value => toJson value
  ofJson?
    | .null => some none
    | json => (ofJson? json).map some

instance {α : Type} [Documented α] : Documented (List α) where
  toJson values := .array (values.map toJson)
  ofJson?
    | .array items => items.mapM ofJson?
    | _ => none

instance : Documented UserKey where
  toJson user := toJson user.value
  ofJson? json := (ofJson? json).map UserKey.mk

instance : Documented Connection where
  toJson connection := toJson connection.id
  ofJson? json := (ofJson? json).map Connection.mk

instance : Documented Channel where
  toJson channel := toJson channel.name
  ofJson? json := (ofJson? json).map Channel.mk

/-- A claim is a record of two strings. -/
def Claim.layout : Layout := .plain ["kind", "value"]

instance : Documented Claim where
  toJson claim := .record [("kind", toJson claim.kind), ("value", toJson claim.value)]
  ofJson? json := do
    match ← Claim.layout.fields? json with
    | [some kind, some value] => some ⟨← ofJson? kind, ← ofJson? value⟩
    | _ => none

/-- A principal is a record; a missing key is the same as none. -/
def Principal.layout : Layout := .plain ["user_key", "claims"]

instance : Documented Principal where
  toJson principal :=
    .record [("user_key", toJson principal.user), ("claims", toJson principal.claims)]
  ofJson? json := do
    match ← Principal.layout.fields? json with
    | [user, some claims] => some ⟨← ofJson? (user.getD .null), ← ofJson? claims⟩
    | _ => none

/-- A kind of change is its name, or an object with that name alone and no content. -/
instance : Documented Change where
  toJson change := .ofText change.name
  ofJson?
    | .object [(name, .null)] => do Change.ofName? (String.ofList (← Symbol.text? name))
    | json => do Change.ofName? (← json.text?)

/-- A notice is a record. -/
def Notice.layout : Layout := .plain ["source", "kind", "key"]

instance : Documented Notice where
  toJson notice :=
    .record [("source", toJson notice.source), ("kind", toJson notice.change),
      ("key", toJson notice.key)]
  ofJson? json := do
    match ← Notice.layout.fields? json with
    | [some source, some change, some key] =>
      some ⟨← ofJson? source, ← ofJson? change, ← ofJson? key⟩
    | _ => none

/-- A duration is a strict record. -/
def Duration.layout : Layout := ⟨["secs", "nanos"], true, false⟩

instance : Documented Duration where
  toJson duration :=
    .record [("secs", toJson duration.seconds), ("nanos", toJson duration.nanoseconds)]
  ofJson? json := do
    match ← Duration.layout.fields? json with
    | [some seconds, some nanoseconds] =>
      let seconds : Fin wordBound ← ofJson? seconds
      let nanoseconds : Fin 0x100000000 ← ofJson? nanoseconds
      Duration.ofParts? seconds.val nanoseconds.val
    | _ => none

/-- Limits are a record all of whose fields have defaults. -/
def Limits.layout : Layout :=
  ⟨["handshake_timeout", "max_concurrent_gateway_ops", "change_queue_capacity"], false, true⟩

/-- The value of a field, or its default if the field is missing. -/
def Documented.fieldOr {α : Type} [Documented α] (default : α) : Option Json → Option α
  | none => some default
  | some json => ofJson? json

instance : Documented Limits where
  toJson limits :=
    .record [("handshake_timeout", toJson limits.handshake),
      ("max_concurrent_gateway_ops", toJson limits.callsUnderWay),
      ("change_queue_capacity", toJson limits.changesQueued)]
  ofJson? json := do
    match ← Limits.layout.fields? json with
    | [handshake, callsUnderWay, changesQueued] =>
      some ⟨← fieldOr Limits.standard.handshake handshake,
        ← fieldOr Limits.standard.callsUnderWay callsUnderWay,
        ← fieldOr Limits.standard.changesQueued changesQueued⟩
    | _ => none

end ChannelMembership
