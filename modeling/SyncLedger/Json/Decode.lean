import SyncLedger.Json.Basic
import SyncLedger.Number.Shortest
import SyncLedger.Text.Quoted
import SyncLedger.Time.Duration
import SyncLedger.Time.Rfc3339
import SyncLedger.Uuid

/-!
# Decoding structured data

A `Decoder α` turns structured data into a value of a type or says what is wrong with
it and where. `Fields α` describes the fields of a record in their order of declaration;
`record` reads such a record from an object or from a list of its fields.

In an object the fields are looked at in the order of their names and only then are the
missing ones noticed, in order of declaration. So of two faults the one at the lesser
name counts, and a fault of a present field comes before a missing one. In a list the
fields are looked at one after another.

A program only lists the fields of its types. What is then accepted, and which fault is found
with the rest, is up to the library that derives decoders from such lists; it is described here
once for all types and taken as given.
-/

namespace SyncLedger

/-- Where data comes from. It decides what happens to the surplus of a list and to a
variant that is written as an object. -/
inductive Dialect where
  /-- A document of its own. -/
  | document
  /-- The content of a tagged message. -/
  | content
  /-- Settings from a file or from the environment. -/
  | settings
deriving DecidableEq

/-- What is wrong with data. -/
inductive DecodeFault where
  | missingField (name : String)
  | unknownVariant (found : String) (variants : List String)
  | invalidType (found : Json) (expected : String)
  | integerOutOfRange (n : Int) (expected : String)
  | severalKeys
  | invalidLength (n : Nat) (expected : String)
  | duration (error : DurationError)
  | invalidUuid
  | invalidDateTime

/-- What is wrong with data, and the way to the place: names of fields and positions in
lists. -/
structure DecodeError where
  fault : DecodeFault
  path : List String

/-- How a value is called in a message. -/
def Json.found : Json → String
  | .null => "null"
  | .bool b => "boolean `" ++ toString b ++ "`"
  | .int n => "integer `" ++ toString n ++ "`"
  | .float x => "floating point `" ++ x.text ++ "`"
  | .str s => "string " ++ Text.quote s
  | .char c => "string " ++ Text.quote (String.singleton c)
  | .arr _ => "sequence"
  | .obj _ => "map"

/-- The names of the variants in a message. -/
def variantList : List String → String
  | [] => "there are no variants"
  | [a] => "expected `" ++ a ++ "`"
  | [a, b] => "expected `" ++ a ++ "` or `" ++ b ++ "`"
  | as => "expected one of " ++ String.intercalate ", " (as.map fun a => "`" ++ a ++ "`")

/-- The wording of a fault; none for texts that are no identifier or no instant. -/
def DecodeFault.message : DecodeFault → Option String
  | .missingField name => some ("missing field `" ++ name ++ "`")
  | .unknownVariant found variants =>
    some ("unknown variant `" ++ found ++ "`, " ++ variantList variants)
  | .invalidType found expected =>
    some ("invalid type: " ++ found.found ++ ", expected " ++ expected)
  | .integerOutOfRange n expected =>
    some ("invalid value: integer `" ++ toString n ++ "`, expected " ++ expected)
  | .severalKeys => some "invalid value: map, expected map with a single key"
  | .invalidLength n expected =>
    some ("invalid length " ++ toString n ++ ", expected " ++ expected)
  | .duration error => some error.message
  | .invalidUuid => none
  | .invalidDateTime => none

/-- Reads a value of a type from structured data. -/
abbrev Decoder (α : Type) := Json → Except DecodeError α

namespace Decode

/-- A fault of the value itself. -/
def fail {α : Type} (fault : DecodeFault) : Except DecodeError α := .error ⟨fault, []⟩

/-- A fault inside the part called `key`. -/
def inside {α : Type} (key : String) : Except DecodeError α → Except DecodeError α
  | .ok a => .ok a
  | .error e => .error { e with path := key :: e.path }

/-! ## Single values -/

/-- Any value. -/
def any : Decoder Json := fun j => .ok j

/-- A text. -/
def string : Decoder String
  | .str s => .ok s
  | .char c => .ok (String.singleton c)
  | j => fail (.invalidType j "a string")

/-- A truth value. -/
def bool : Decoder Bool
  | .bool b => .ok b
  | j => fail (.invalidType j "a boolean")

/-- A whole number from `lo` to `hi`. -/
def integer (name : String) (lo hi : Int) : Decoder Int
  | .int n => if lo ≤ n ∧ n ≤ hi then .ok n else fail (.integerOutOfRange n name)
  | j => fail (.invalidType j name)

/-- A signed 64-bit number. -/
def int64 : Decoder Int64 := fun j =>
  (integer "i64" Int64.minValue.toInt Int64.maxValue.toInt j).map Int64.ofInt

/-- An unsigned 64-bit number. -/
def uint64 : Decoder UInt64 := fun j =>
  (integer "u64" 0 (UInt64.size - 1) j).map fun n => UInt64.ofNat n.toNat

/-- An unsigned 32-bit number. -/
def uint32 : Decoder UInt32 := fun j =>
  (integer "u32" 0 (UInt32.size - 1) j).map fun n => UInt32.ofNat n.toNat

/-- A floating-point number, or the one nearest to a whole number. -/
def binary64 : Decoder Binary64
  | .float x => .ok x
  | .int n => .ok (Binary64.ofInt n)
  | j => fail (.invalidType j "f64")

/-- An identifier. -/
def uuid : Decoder Uuid
  | .str s =>
    match Uuid.parse? s with
    | some u => .ok u
    | none => fail .invalidUuid
  | .char _ => fail .invalidUuid
  | j => fail (.invalidType j "a formatted UUID string")

/-- The bytes of an identifier from a position on, of which `count` are missing, after
those of the number `n`. What follows them does not count. -/
def uuidBytes : Nat → Nat → Nat → List Json → Except DecodeError Uuid
  | 0, _, n, _ => .ok (Uuid.ofNat n)
  | _ + 1, _, _, [] => fail (.invalidLength 16 "a formatted UUID string")
  | count + 1, i, n, j :: js =>
    match inside (toString i) (integer "u8" 0 255 j) with
    | .error e => .error e
    | .ok byte => uuidBytes count (i + 1) (256 * n + byte.toNat) js

/-- An identifier, which settings may also give as a list of its bytes. -/
def uuidOrBytes (d : Dialect) : Decoder Uuid
  | .arr js => if d = .settings then uuidBytes 16 0 0 js else uuid (.arr js)
  | j => uuid j

/-- An instant. -/
def dateTime : Decoder DateTime
  | .str s =>
    match Rfc3339.parse? s with
    | some d => .ok d
    | none => fail .invalidDateTime
  | j => fail (.invalidType j "an RFC 3339 formatted date and time string")

/-- A span given in seconds. -/
def seconds : Decoder Duration := fun j =>
  match binary64 j with
  | .ok x =>
    match Duration.ofSeconds x with
    | .ok d => .ok d
    | .error e => fail (.duration e)
  | .error e => .error e

/-- A value or `null`. -/
def option {α : Type} (decode : Decoder α) : Decoder (Option α)
  | .null => .ok none
  | j => (decode j).map some

theorem option_of_ne_null {α : Type} (decode : Decoder α) {j : Json} (h : j ≠ .null) :
    option decode j = (decode j).map some := by
  cases j with
  | null => exact absurd rfl h
  | bool | int | float | str | char | arr | obj => rfl

/-- The values of a list from a position on. -/
def items {α : Type} (decode : Decoder α) : Nat → List Json → Except DecodeError (List α)
  | _, [] => .ok []
  | i, j :: js =>
    match inside (toString i) (decode j) with
    | .error e => .error e
    | .ok a => (items decode (i + 1) js).map (a :: ·)

/-- A list of values. -/
def list {α : Type} (decode : Decoder α) : Decoder (List α)
  | .arr js => items decode 0 js
  | j => fail (.invalidType j "a sequence")

/-! ## Variants -/

/-- The value of the variant with a name. -/
def variantNamed? {α : Type} (name : String) : List (String × α) → Option α
  | [] => none
  | v :: vs => if v.1 = name then some v.2 else variantNamed? name vs

/-- The variant with a name; an unknown one is a fault unless there is a value for all
other names. -/
def variantOf {α : Type} (variants : List (String × α)) (other : Option α) (name : String) :
    Except DecodeError α :=
  match variantNamed? name variants, other with
  | some a, _ => .ok a
  | none, some a => .ok a
  | none, none => fail (.unknownVariant name (variants.map Prod.fst))

/-- The value beside the name of a variant that is written as an object holds nothing:
it is `null`, or also an empty object inside a tagged message. -/
def holdsNothing (d : Dialect) : Json → Except DecodeError Unit
  | .null => .ok ()
  | .obj [] => if d = .content then .ok () else fail (.invalidType (.obj []) "unit")
  | j => fail (.invalidType j "unit")

/-- The variants of a type by their names. -/
def named {α : Type} (name : α → String) (all : List α) : List (String × α) :=
  all.map fun a => (name a, a)

/-- A variant, given by its name or by an object with the name as its only key. Settings
read the first key of an object. -/
def variant {α : Type} (d : Dialect) (variants : List (String × α)) (other : Option α) :
    Decoder α
  | .str s => variantOf variants other s
  | .obj [f] => keyed f
  | .obj (f :: _ :: _) => if d = .settings then keyed f else fail .severalKeys
  | .obj [] => fail (if d = .settings then .invalidType (.obj []) "enum" else .severalKeys)
  | j => fail (.invalidType j "string or map")
where
  /-- The variant named by a key. -/
  keyed (f : String × Json) : Except DecodeError α :=
    inside f.1 <|
      match variantOf variants other f.1 with
      | .error e => .error e
      | .ok a => (holdsNothing d f.2).map fun _ => a

/-! ## Records -/

/-- One field of a record: how its value is read, the value it has when an object lacks
it, and the value it has when a list ends before it. -/
structure Field (α : Type) where
  name : String
  decode : Decoder α
  absent : Option α
  cut : Option α

/-- A field that must be there. -/
def required {α : Type} (name : String) (decode : Decoder α) : Field α :=
  ⟨name, decode, none, none⟩

/-- A field that has a value of its own when it is missing. -/
def defaulted {α : Type} (name : String) (decode : Decoder α) (value : α) : Field α :=
  ⟨name, decode, some value, some value⟩

/-- A field that may be missing or `null`. -/
def optional {α : Type} (name : String) (decode : Decoder α) : Field (Option α) :=
  ⟨name, option decode, some none, some none⟩

/-- A field that may be missing in an object or `null`, but has its place in a list. -/
def nullable {α : Type} (name : String) (decode : Decoder α) : Field (Option α) :=
  ⟨name, option decode, some none, none⟩

/-- A fault of an object: at a field that is there, or a field that is not. -/
inductive ObjectFault where
  | present (name : String) (error : DecodeError)
  | absent (name : String)

/-- Of two faults the one that is found first; the first one belongs to fields declared
before. -/
def ObjectFault.first : ObjectFault → ObjectFault → ObjectFault
  | .present a e, .present b f => if b < a then .present b f else .present a e
  | .present a e, .absent _ => .present a e
  | .absent _, .present b f => .present b f
  | .absent a, .absent _ => .absent a

/-- The fault as an error of the whole record. -/
def ObjectFault.error : ObjectFault → DecodeError
  | .present name e => { e with path := name :: e.path }
  | .absent name => ⟨.missingField name, []⟩

/-- A fault of a list of fields: at an element, or an end before the field at a
position. -/
inductive ListFault where
  | element (error : DecodeError)
  | ended (position : Nat)

/-- The fields of a record: how many there are, how they are read from the fields of an
object, and how from the front of a list, whose rest is handed on. -/
structure Fields (α : Type) where
  count : Nat
  ofObject : List (String × Json) → Except ObjectFault α
  ofList : List Json → Except ListFault (α × List Json)

/-- A record without fields. -/
def nothing {α : Type} (a : α) : Fields α where
  count := 0
  ofObject _ := .ok a
  ofList js := .ok (a, js)

/-- The value of a field of an object. -/
def Field.inObject {α : Type} (f : Field α) (fs : List (String × Json)) :
    Except ObjectFault α :=
  match Json.field? f.name fs with
  | some j =>
    match f.decode j with
    | .ok a => .ok a
    | .error e => .error (.present f.name e)
  | none =>
    match f.absent with
    | some a => .ok a
    | none => .error (.absent f.name)

/-- The value of the field at position `i` of a list. -/
def Field.inList {α : Type} (f : Field α) (i : Nat) : List Json → Except ListFault (α × List Json)
  | j :: js =>
    match f.decode j with
    | .ok a => .ok (a, js)
    | .error e => .error (.element { e with path := toString i :: e.path })
  | [] =>
    match f.cut with
    | some a => .ok (a, [])
    | none => .error (.ended i)

/-- Both values, or the fault that is found first. -/
def together {α β γ : Type} (join : α → β → γ) :
    Except ObjectFault α → Except ObjectFault β → Except ObjectFault γ
  | .ok a, .ok b => .ok (join a b)
  | .ok _, .error f => .error f
  | .error e, .ok _ => .error e
  | .error e, .error f => .error (e.first f)

/-- The fields so far and one more. -/
def Fields.and {α β : Type} (fs : Fields (α → β)) (f : Field α) : Fields β where
  count := fs.count + 1
  ofObject o := together (fun g a => g a) (fs.ofObject o) (f.inObject o)
  ofList js :=
    match fs.ofList js with
    | .error e => .error e
    | .ok (g, rest) =>
      match f.inList fs.count rest with
      | .error e => .error e
      | .ok (a, rest) => .ok (g a, rest)

/-- A number of things. -/
def counted (n : Nat) (thing : String) : String :=
  toString n ++ " " ++ thing ++ (if n = 1 then "" else "s")

/-- What is said of a list with more elements than there are fields. -/
def surplus (d : Dialect) (fields elements : Nat) : Except DecodeError Unit :=
  match d with
  | .document => fail (.invalidLength elements "fewer elements in array")
  | .content => fail (.invalidLength elements (counted fields "element" ++ " in sequence"))
  | .settings => .ok ()

/-- The fields of a record from a list of them. -/
def ofElements {α : Type} (d : Dialect) (what : String) (fs : Fields α) (js : List Json) :
    Except DecodeError α :=
  match fs.ofList js with
  | .error (.element e) => .error e
  | .error (.ended i) =>
    fail (.invalidLength i (what ++ " with " ++ counted fs.count "element"))
  | .ok (a, rest) =>
    if rest.isEmpty then .ok a else (surplus d fs.count js.length).map fun _ => a

/-- The fields of a record from the fields of an object. -/
def ofMembers {α : Type} (fs : Fields α) (o : List (String × Json)) : Except DecodeError α :=
  match fs.ofObject o with
  | .ok a => .ok a
  | .error f => .error f.error

/-- A record, as an object or as a list of its fields. -/
def record {α : Type} (d : Dialect) (name : String) (fs : Fields α) : Decoder α
  | .obj o => ofMembers fs o
  | .arr js => ofElements d ("struct " ++ name) fs js
  | j => fail (.invalidType j ("struct " ++ name))

end Decode

end SyncLedger
