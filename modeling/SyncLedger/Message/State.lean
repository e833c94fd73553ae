import SyncLedger.Message.Stream

/-!
# Checkpoints

A state message is a checkpoint. The platform gives every checkpoint it forwards an
identifier, and the destination sends the checkpoint back once everything before it is
committed. A checkpoint may concern one stream, all streams, or, from old connectors,
say nothing about its scope.
-/

namespace SyncLedger

/-- The identifier of a checkpoint. Later checkpoints have greater identifiers. -/
structure StateId where
  value : UInt64
deriving DecidableEq, Inhabited

namespace StateId

def text (i : StateId) : String := toString i.value.toNat

def decode : Decoder StateId := fun j => (Decode.uint64 j).map StateId.mk

def encode (i : StateId) : Json := .int i.value.toNat

instance : LE StateId := ⟨fun a b => a.value.toNat ≤ b.value.toNat⟩

instance (a b : StateId) : Decidable (a ≤ b) :=
  inferInstanceAs (Decidable (a.value.toNat ≤ b.value.toNat))

/-- The greater of an identifier and one that may be missing. -/
def atLeast (i : StateId) : Option StateId → StateId
  | none => i
  | some j => if i ≤ j then j else i

end StateId

/-- What a checkpoint is about. -/
inductive StateType where
  | stream
  | global
  | legacy
deriving DecidableEq

namespace StateType

def name : StateType → String
  | .stream => "STREAM"
  | .global => "GLOBAL"
  | .legacy => "LEGACY"

def all : List StateType := [.stream, .global, .legacy]

def decode (d : Dialect) : Decoder StateType := Decode.variant d (Decode.named name all) none

def encode (t : StateType) : Json := .str t.name

end StateType

/-- The checkpoint of one stream; the cursor itself is not interpreted. -/
structure StreamState where
  descriptor : StreamDescriptor
  state : Option Json
deriving Inhabited

/-- A checkpoint. -/
structure StateMessage where
  type : Option StateType
  stream : Option StreamState
  id : Option StateId
deriving Inhabited

open Decode

namespace StreamState

def decode (d : Dialect) : Decoder StreamState :=
  record d "StreamState"
    ((nothing StreamState.mk).and (required "stream_descriptor" (StreamDescriptor.decode d))
      |>.and (optional "stream_state" any))

def encode (s : StreamState) : Json :=
  .obj (("stream_descriptor", s.descriptor.encode) :: Json.optionalField "stream_state" id s.state)

end StreamState

namespace StateMessage

def decode (d : Dialect) : Decoder StateMessage :=
  record d "StateMessage"
    ((nothing StateMessage.mk).and (optional "type" (StateType.decode d))
      |>.and (optional "stream" (StreamState.decode d))
      |>.and (optional "id" StateId.decode))

def encode (m : StateMessage) : Json :=
  .obj (Json.optionalField "type" StateType.encode m.type
    ++ (Json.optionalField "stream" StreamState.encode m.stream
    ++ Json.optionalField "id" StateId.encode m.id))

end StateMessage

end SyncLedger
