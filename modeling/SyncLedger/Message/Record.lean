import SyncLedger.Message.Stream

/-!
# Records

A record message carries one row of a stream. The row itself is not interpreted.
-/

namespace SyncLedger

/-- One row of a stream. -/
structure RecordMessage where
  stream : String
  space : Option String
  data : Json
  emittedAt : Int64
deriving Inhabited

namespace RecordMessage

open Decode

/-- The stream that the row belongs to. -/
def descriptor (r : RecordMessage) : StreamDescriptor := ⟨r.stream, r.space⟩

def decode (d : Dialect) : Decoder RecordMessage :=
  record d "RecordMessage"
    ((nothing RecordMessage.mk).and (required "stream" string)
      |>.and (optional "namespace" string)
      |>.and (defaulted "data" any .null)
      |>.and (required "emitted_at" int64))

def encode (r : RecordMessage) : Json :=
  .obj (("stream", .str r.stream) :: (Json.optionalField "namespace" .str r.space
    ++ [("data", r.data), ("emitted_at", .int r.emittedAt.toInt)]))

end RecordMessage

end SyncLedger
