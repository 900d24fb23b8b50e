import BlobFiles.Json.Basic
import BlobFiles.Decimal.Shortest
import BlobFiles.Text.Quoted

/-! # Typed values from JSON

A type is read from a JSON value without conversions: a float is never an integer, and a number is
never a text. Records are read from an object, whose unknown members are passed over, or from an
array with the fields in order. Their failures name the first member that does not fit.
-/
namespace BlobFiles.Json

inductive DecodeError where
  | type (found : Json) (wanted : String)
  | range (n : Int) (wanted : String)
  | missing (field : String)
  | tooShort (length : Nat) (record : String) (fields : Nat)
  | tooLong (length : Nat)
  | other (reason : String)

/-- What a value is called in a message. -/
def describe : Json → String
  | null => "null"
  | bool b => s!"boolean `{b}`"
  | integer n => s!"integer `{n}`"
  | float x => s!"floating point `{x.text}`"
  | string s => s!"string {Text.quoted s}"
  | array _ => "sequence"
  | object _ => "map"

namespace DecodeError

def message : DecodeError → String
  | type found wanted => s!"invalid type: {found.describe}, expected {wanted}"
  | range n wanted => s!"invalid value: integer `{n}`, expected {wanted}"
  | missing field => s!"missing field `{field}`"
  | tooShort length record fields =>
    let noun := if fields = 1 then "element" else "elements"
    s!"invalid length {length}, expected struct {record} with {fields} {noun}"
  | tooLong length => s!"invalid length {length}, expected fewer elements in array"
  | other reason => reason

end DecodeError

abbrev Decoder (α : Type) := Json → Except DecodeError α

/-- An integer between two bounds, both included. -/
def decodeBetween (low high : Int) (name : String) : Decoder Int
  | integer n => if low ≤ n ∧ n ≤ high then .ok n else .error (.range n name)
  | v => .error (.type v name)

/-- A size or count of 64 bits. -/
def decodeNat (name : String) : Decoder Nat := fun v =>
  (decodeBetween 0 0xFFFFFFFFFFFFFFFF name v).map Int.toNat

def decodeSize : Decoder Nat := decodeNat "usize"

def decodeInt64 : Decoder Int := decodeBetween (-0x8000000000000000) 0x7FFFFFFFFFFFFFFF "i64"

def decodeBool : Decoder Bool
  | bool b => .ok b
  | v => .error (.type v "a boolean")

def decodeString : Decoder String
  | string s => .ok s
  | v => .error (.type v "a string")

/-- Null for an absent value. -/
def decodeOption {α : Type} (decode : Decoder α) : Decoder (Option α)
  | null => .ok none
  | v => (decode v).map some

/-- The fields of a record: each has a name and says whether it accepts a value. -/
structure Field where
  name : String
  accepts : Json → Except DecodeError Unit

def Field.of {α : Type} (name : String) (decode : Decoder α) : Field :=
  ⟨name, fun v => (decode v).map fun _ => ()⟩

/-- Checks the members of an object in order of their names. -/
def checkMembers (fields : List Field) (members : Members) : Except DecodeError Unit :=
  let sorted := members.mergeSort fun a b => a.1 ≤ b.1
  sorted.forM fun (name, v) =>
    match fields.find? (·.name = name) with
    | some field => field.accepts v
    | none => .ok ()

/-- Checks the items of an array against the fields in order. -/
def checkItems : List Field → List Json → Except DecodeError Unit
  | field :: fields, v :: vs => do
    field.accepts v
    checkItems fields vs
  | _, _ => .ok ()

/-- The members of a record, named, from either form of it. `required` says how many fields of an
array must be there. -/
def recordMembers (record : String) (fields : List Field) (required : Nat) :
    Json → Except DecodeError Members
  | object members => do
    checkMembers fields members
    return members
  | array items => do
    checkItems fields items
    if items.length < required then throw (.tooShort items.length record fields.length)
    if fields.length < items.length then throw (.tooLong items.length)
    return (fields.map Field.name).zip items
  | v => .error (.type v s!"struct {record}")

/-- A field that has to be there. -/
def requiredField {α : Type} (members : Members) (name : String) (decode : Decoder α) :
    Except DecodeError α :=
  match members.get? name with
  | some v => decode v
  | none => .error (.missing name)

/-- A field with a value for its absence. -/
def fieldOr {α : Type} (members : Members) (name : String) (decode : Decoder α) (default : α) :
    Except DecodeError α :=
  match members.get? name with
  | some v => decode v
  | none => .ok default

end BlobFiles.Json
