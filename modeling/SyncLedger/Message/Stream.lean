import SyncLedger.Json.Decode

/-!
# Streams of a catalog

A stream is named by its name and an optional namespace. The text of a descriptor does
not tell a dot inside a name from the one between namespace and name: it is for people,
and descriptors are compared by their fields.
-/

namespace SyncLedger

/-- Names a stream within a catalog. -/
structure StreamDescriptor where
  name : String
  /-- The namespace, if the catalog has namespaces. -/
  space : Option String
deriving DecidableEq, Inhabited

namespace StreamDescriptor

open Decode

/-- The name, after the namespace and a dot if there is one. -/
def text (s : StreamDescriptor) : String :=
  match s.space with
  | some space => space ++ "." ++ s.name
  | none => s.name

def decode (d : Dialect) : Decoder StreamDescriptor :=
  record d "StreamDescriptor"
    ((nothing StreamDescriptor.mk).and (required "name" string)
      |>.and (optional "namespace" string))

def encode (s : StreamDescriptor) : Json :=
  .obj (("name", .str s.name) :: Json.optionalField "namespace" .str s.space)

end StreamDescriptor

end SyncLedger
