import SyncLedger.Message.Record
import SyncLedger.Message.State
import SyncLedger.Message.Trace

/-!
# Messages

Connectors and the worker exchange messages that are tagged by their type. Records,
states and traces are read in full; a message of any other type is `other`, so that new
types do no harm. A message is an object with its type among the fields, or a list whose
first element is the type.
-/

namespace SyncLedger

/-- A message between a connector and the worker. -/
inductive Message where
  | record (record : RecordMessage)
  | state (state : StateMessage)
  | trace (trace : TraceMessage)
  | other
deriving Inhabited

namespace Message

open Decode

/-- The type of a message. -/
def kind : Message → String
  | .record _ => "RECORD"
  | .state _ => "STATE"
  | .trace _ => "TRACE"
  | .other => "OTHER"

/-- The one field that a message of a given type has beside its type. -/
def content (type : String) : Option (String × Fields Message) :=
  if type = "RECORD" then
    some ("Record",
      (nothing Message.record).and (required "record" (RecordMessage.decode .content)))
  else if type = "STATE" then
    some ("State", (nothing Message.state).and (required "state" (StateMessage.decode .content)))
  else if type = "TRACE" then
    some ("Trace", (nothing Message.trace).and (required "trace" (TraceMessage.decode .content)))
  else none

/-- The type of a message is a text. -/
def type? : Decoder String
  | .str s => .ok s
  | j => fail (.invalidType j "variant identifier")

/-- The message of a given type in an object. -/
def ofObject (type : String) (o : List (String × Json)) : Except DecodeError Message :=
  match content type with
  | some c => ofMembers c.2 o
  | none => .ok .other

/-- The message of a given type with its content in a list. -/
def ofList (type : String) (js : List Json) : Except DecodeError Message :=
  match content type with
  | some c => ofElements .content ("struct variant Message::" ++ c.1) c.2 js
  | none => ofElements .content "unit variant" (nothing .other) js

def decode : Decoder Message
  | .obj o =>
    match Json.field? "type" o with
    | none => fail (.missingField "type")
    | some j =>
      match inside "type" (type? j) with
      | .error e => .error e
      | .ok type => ofObject type o
  | .arr [] => fail (.missingField "type")
  | .arr (j :: js) =>
    match inside "0" (type? j) with
    | .error e => .error e
    | .ok type => ofList type js
  | j => fail (.invalidType j "internally tagged enum Message")

def encode : Message → Json
  | .record r => .obj [("type", .str "RECORD"), ("record", r.encode)]
  | .state s => .obj [("type", .str "STATE"), ("state", s.encode)]
  | .trace t => .obj [("type", .str "TRACE"), ("trace", t.encode)]
  | .other => .obj [("type", .str "OTHER")]

end Message

end SyncLedger
