import SyncLedger.Json.Decode

/-!
# Statistics of a sync

Connectors report four counters per stream, any of which may be missing. The totals of
a run depend on the sync mode: incremental streams report what they moved, so the
counters are added up; a full refresh reports a complete snapshot, so the last stream
speaks for the run. A missing counter counts as zero, and a sum that does not fit 64
bits is the greatest number that does.
-/

namespace SyncLedger

open Decode

/-- The counters of one stream; one that was not reported is `none`. -/
structure SyncStats where
  recordsEmitted : Option UInt64
  bytesEmitted : Option UInt64
  recordsCommitted : Option UInt64
  bytesCommitted : Option UInt64
deriving DecidableEq, Inhabited

/-- The report of one stream. -/
structure StreamSyncStats where
  name : String
  space : Option String
  stats : SyncStats
  /-- Whether the stream ran a backfill, if the connector said so. -/
  wasBackfilled : Option Bool
deriving DecidableEq, Inhabited

/-- The counters of a run. -/
structure StreamStatsTotals where
  recordsEmitted : UInt64
  bytesEmitted : UInt64
  recordsCommitted : UInt64
  bytesCommitted : UInt64
deriving DecidableEq, Inhabited

/-- What the counters of a stream mean. -/
inductive SyncMode where
  | fullRefresh
  | incremental
deriving DecidableEq

namespace SyncMode

def name : SyncMode → String
  | .fullRefresh => "full_refresh"
  | .incremental => "incremental"

def all : List SyncMode := [.fullRefresh, .incremental]

def decode : Decoder SyncMode := variant .document (named name all) none

def encode (m : SyncMode) : Json := .str m.name

end SyncMode

/-- A counter as data. -/
def encodeCount (n : UInt64) : Json := .int n.toNat

namespace SyncStats

def decode : Decoder SyncStats :=
  record .document "SyncStats"
    ((nothing SyncStats.mk).and (nullable "recordsEmitted" uint64)
      |>.and (nullable "bytesEmitted" uint64)
      |>.and (nullable "recordsCommitted" uint64)
      |>.and (nullable "bytesCommitted" uint64))

def encode (s : SyncStats) : Json :=
  .obj [("recordsEmitted", Json.ofOption encodeCount s.recordsEmitted),
    ("bytesEmitted", Json.ofOption encodeCount s.bytesEmitted),
    ("recordsCommitted", Json.ofOption encodeCount s.recordsCommitted),
    ("bytesCommitted", Json.ofOption encodeCount s.bytesCommitted)]

/-- The counters with zero for those that were not reported. -/
def totals (s : SyncStats) : StreamStatsTotals where
  recordsEmitted := s.recordsEmitted.getD 0
  bytesEmitted := s.bytesEmitted.getD 0
  recordsCommitted := s.recordsCommitted.getD 0
  bytesCommitted := s.bytesCommitted.getD 0

end SyncStats

namespace StreamSyncStats

def decode : Decoder StreamSyncStats :=
  record .document "StreamSyncStats"
    ((nothing StreamSyncStats.mk).and (required "streamName" string)
      |>.and (optional "streamNamespace" string)
      |>.and (required "stats" SyncStats.decode)
      |>.and (optional "wasBackfilled" bool))

def encode (s : StreamSyncStats) : Json :=
  .obj (("streamName", .str s.name) :: (Json.optionalField "streamNamespace" .str s.space
    ++ [("stats", s.stats.encode), ("wasBackfilled", Json.ofOption .bool s.wasBackfilled)]))

end StreamSyncStats

/-- The sum of two counters, or the greatest counter if the sum does not fit. -/
def addCounts (a b : UInt64) : UInt64 :=
  if a.toNat + b.toNat < UInt64.size then a + b else UInt64.ofNat (UInt64.size - 1)

theorem toNat_addCounts (a b : UInt64) :
    (addCounts a b).toNat = min (UInt64.size - 1) (a.toNat + b.toNat) := by
  unfold addCounts
  split
  · rename_i h
    rw [UInt64.toNat_add, Nat.mod_eq_of_lt h]
    omega
  · rename_i h
    rw [UInt64.toNat_ofNat', Nat.mod_eq_of_lt (by decide)]
    omega

namespace StreamStatsTotals

def decode : Decoder StreamStatsTotals :=
  record .document "StreamStatsTotals"
    ((nothing StreamStatsTotals.mk).and (required "recordsEmitted" uint64)
      |>.and (required "bytesEmitted" uint64)
      |>.and (required "recordsCommitted" uint64)
      |>.and (required "bytesCommitted" uint64))

def encode (t : StreamStatsTotals) : Json :=
  .obj [("recordsEmitted", encodeCount t.recordsEmitted),
    ("bytesEmitted", encodeCount t.bytesEmitted),
    ("recordsCommitted", encodeCount t.recordsCommitted),
    ("bytesCommitted", encodeCount t.bytesCommitted)]

/-- All counters zero. -/
def zero : StreamStatsTotals := ⟨0, 0, 0, 0⟩

/-- The totals of two parts of a run. -/
def add (a b : StreamStatsTotals) : StreamStatsTotals where
  recordsEmitted := addCounts a.recordsEmitted b.recordsEmitted
  bytesEmitted := addCounts a.bytesEmitted b.bytesEmitted
  recordsCommitted := addCounts a.recordsCommitted b.recordsCommitted
  bytesCommitted := addCounts a.bytesCommitted b.bytesCommitted

end StreamStatsTotals

namespace StreamSyncStats

/-- The totals of a run. -/
def aggregate : SyncMode → List StreamSyncStats → StreamStatsTotals
  | .incremental, stats =>
    stats.foldl (fun acc s => acc.add s.stats.totals) StreamStatsTotals.zero
  | .fullRefresh, stats =>
    match stats.getLast? with
    | some s => s.stats.totals
    | none => StreamStatsTotals.zero

/-- Some stream of the run was backfilled; `none` if no stream says anything about it. -/
def anyBackfilled (stats : List StreamSyncStats) : Option Bool :=
  let answers := stats.filterMap wasBackfilled
  if answers.isEmpty then none else some (answers.any id)

end StreamSyncStats

end SyncLedger
