import SyncLedger.Message.Stream

/-!
# Keys of streams

Within a sync a stream is identified by its connection, its namespace and its name. Keys
are ordered by these three; a stream without a namespace comes before all streams with
one. The text of a key is for people: like the text of a descriptor it does not tell
where a namespace ends.
-/

namespace SyncLedger

/-- Identifies a stream within a sync. -/
structure StreamKey where
  connectionId : Uuid
  space : Option String
  name : String
deriving DecidableEq, Inhabited

namespace StreamKey

/-- The key of a stream of a connection. -/
def ofDescriptor (connectionId : Uuid) (stream : StreamDescriptor) : StreamKey :=
  ⟨connectionId, stream.space, stream.name⟩

/-- The stream that a key names. -/
def descriptor (k : StreamKey) : StreamDescriptor := ⟨k.name, k.space⟩

/-- The connection, a slash, and the text of the stream. -/
def text (k : StreamKey) : String := k.connectionId.text ++ "/" ++ k.descriptor.text

/-- A missing text comes before every text; texts are ordered by code points. -/
def spaceBefore : Option String → Option String → Bool
  | none, some _ => true
  | some a, some b => a < b
  | _, none => false

/-- The first key comes strictly before the second. -/
def before (a b : StreamKey) : Bool :=
  a.connectionId < b.connectionId ||
    (a.connectionId = b.connectionId &&
      (spaceBefore a.space b.space || (a.space = b.space && a.name < b.name)))

/-- The first key does not come after the second. -/
def notAfter (a b : StreamKey) : Bool := !b.before a

theorem ofDescriptor_inj (c : Uuid) (s t : StreamDescriptor) :
    ofDescriptor c s = ofDescriptor c t ↔ s = t := by
  cases s; cases t
  simp [ofDescriptor, and_comm]

end StreamKey

end SyncLedger
