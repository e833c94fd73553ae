import SyncLedger.Job.Failure
import SyncLedger.Proofs.Json.ReadBack
import SyncLedger.Proofs.Text.Uuid
import SyncLedger.Proofs.Time.Rfc3339
import SyncLedger.Stats
import SyncLedger.Stream.Status

/-!
# The books are read back

Jobs, failures, statistics and rate limits are filed with services and read from them again. They
say in three ways that something is absent: with a `null`, by leaving a field out, and by a
value that stands for it. Whatever is written is read back, identifiers and instants included.
-/

namespace SyncLedger

open Decode

theorem Decode.uuid_text (u : Uuid) : uuid (.str u.text) = .ok u := by
  rw [uuid, Uuid.parse?_text]

theorem Decode.dateTime_text (d : DateTime) : dateTime (.str (Rfc3339.text d)) = .ok d := by
  rw [dateTime, Rfc3339.parse?_text]

/-! ## Jobs -/

theorem JobId.decode_encode (i : JobId) : decode i.encode = .ok i := by
  rw [decode, encode, int64_toInt]
  rfl

theorem AttemptStatus.decode_encode (s : AttemptStatus) : decode s.encode = .ok s := by
  refine variant_str .document none ?_
  cases s with
  | running | failed | succeeded => rfl

theorem Attempt.decode_encode (a : Attempt) : decode a.encode = .ok a := by
  refine record_obj .document _ ((((reads_nothing _).and ?_).and ?_).and ?_)
  · exact reads_required (by simp [Json.field?_cons]) (uint32_toNat a.number)
  · exact reads_required (by simp [Json.field?_cons]) a.jobId.decode_encode
  · exact reads_required (by simp [Json.field?_cons]) a.status.decode_encode

theorem JobStatus.decode_encode (s : JobStatus) : decode s.encode = .ok s := by
  refine variant_str .document none ?_
  cases s with
  | pending | running | incomplete | failed | succeeded | cancelled => rfl

theorem JobConfigType.decode_encode (t : JobConfigType) : decode t.encode = .ok t := by
  refine variant_str .document none ?_
  cases t with
  | sync | resetConnection | refresh => rfl
  | checkConnectionSource | checkConnectionDestination | discoverSchema | getSpec => rfl

theorem Job.decode_encode (j : Job) : decode j.encode = .ok j := by
  refine record_obj .document _
    (((((((reads_nothing _).and ?_).and ?_).and ?_).and ?_).and ?_).and ?_)
  · exact reads_required (by simp [Json.field?_cons]) j.id.decode_encode
  · exact reads_required (by simp [Json.field?_cons]) (uuid_text j.connectionId)
  · exact reads_required (by simp [Json.field?_cons]) j.configType.decode_encode
  · exact reads_required (by simp [Json.field?_cons]) (dateTime_text j.createdAt)
  · exact reads_required (by simp [Json.field?_cons]) j.status.decode_encode
  · exact reads_defaulted (by simp [Json.field?_cons]) (list_map fun a _ => a.decode_encode)

/-! ## Failures -/

theorem FailureOrigin.decode_encode (o : FailureOrigin) : decode o.encode = .ok o := by
  refine variant_str .document none ?_
  cases o with
  | source | destination | replication | platform | unknown => rfl

theorem FailureType.decode_encode (t : FailureType) : decode t.encode = .ok t := by
  refine variant_str .document none ?_
  cases t with
  | configError | systemError | transientError => rfl
  | manualCancellation | destinationTimeout => rfl

theorem FailureReason.decode_encode (r : FailureReason) : decode r.encode = .ok r := by
  refine record_obj .document _
    ((((((reads_nothing _).and ?_).and ?_).and ?_).and ?_).and ?_)
  · exact reads_required (by simp [Json.field?_cons]) r.origin.decode_encode
  · exact reads_required (by simp [Json.field?_cons]) r.type.decode_encode
  · exact reads_required (j := .str r.externalMessage) (by simp [Json.field?_cons]) rfl
  · exact reads_required (j := .str r.internalMessage) (by simp [Json.field?_cons]) rfl
  · exact reads_required (by simp [Json.field?_cons]) (dateTime_text r.timestamp)

theorem AttemptFailureSummary.decode_encode (s : AttemptFailureSummary) :
    decode s.encode = .ok s := by
  refine record_obj .document _ (((reads_nothing _).and ?_).and ?_)
  · exact reads_required (by simp [Json.field?_cons]) (list_map fun r _ => r.decode_encode)
  · exact reads_defaulted (j := .bool s.partialSuccess) (by simp [Json.field?_cons]) rfl

/-! ## Statistics -/

theorem Decode.uint64_encodeCount (n : UInt64) : uint64 (encodeCount n) = .ok n :=
  uint64_toNat n

/-- A counter that was not reported is written as `null`. -/
theorem Decode.reads_count {name : String} {o : List (String × Json)} {n : Option UInt64}
    (hj : Json.field? name o = some (Json.ofOption encodeCount n)) :
    (nullable name uint64).Reads o n :=
  reads_nullable encodeCount hj (fun m _ => uint64_encodeCount m) fun _ _ => Json.noConfusion

theorem SyncStats.decode_encode (s : SyncStats) : decode s.encode = .ok s := by
  refine record_obj .document _ (((((reads_nothing _).and ?_).and ?_).and ?_).and ?_)
  · exact reads_count (by simp [Json.field?_cons])
  · exact reads_count (by simp [Json.field?_cons])
  · exact reads_count (by simp [Json.field?_cons])
  · exact reads_count (by simp [Json.field?_cons])

theorem StreamSyncStats.decode_encode (s : StreamSyncStats) : decode s.encode = .ok s := by
  have hbackfill : option bool (Json.ofOption .bool s.wasBackfilled) = .ok s.wasBackfilled :=
    option_ofOption (fun _ _ => rfl) (fun _ _ => Json.noConfusion)
  refine record_obj .document _ (((((reads_nothing _).and ?_).and ?_).and ?_).and ?_)
  · exact reads_required (j := .str s.name) (by simp [Json.field?_cons]) rfl
  · refine reads_optional .str ?_ (fun _ _ => rfl) (fun _ _ => Json.noConfusion)
    simp [Json.field?_cons, Json.field?_append, Json.field?_optionalField]
  · refine reads_required ?_ s.stats.decode_encode
    simp [Json.field?_cons, Json.field?_append, Json.field?_optionalField]
  · refine Field.reads_of_present ?_ hbackfill
    simp [Decode.optional, Json.field?_cons, Json.field?_append, Json.field?_optionalField]

theorem StreamStatsTotals.decode_encode (t : StreamStatsTotals) : decode t.encode = .ok t := by
  refine record_obj .document _ (((((reads_nothing _).and ?_).and ?_).and ?_).and ?_)
  · exact reads_required (by simp [Json.field?_cons]) (uint64_encodeCount t.recordsEmitted)
  · exact reads_required (by simp [Json.field?_cons]) (uint64_encodeCount t.bytesEmitted)
  · exact reads_required (by simp [Json.field?_cons]) (uint64_encodeCount t.recordsCommitted)
  · exact reads_required (by simp [Json.field?_cons]) (uint64_encodeCount t.bytesCommitted)

/-! ## Rate limits -/

theorem RateLimitedInfo.decode_encode (i : RateLimitedInfo) : decode i.encode = .ok i := by
  refine record_obj .document _ ((reads_nothing _).and ?_)
  exact reads_nullable (fun d => .str (Rfc3339.text d)) (by simp [Json.field?_cons])
    (fun d _ => dateTime_text d) fun _ _ => Json.noConfusion

/-- Jobs with their attempts, summaries of failures, the statistics of a stream and of a run, and
rate limits are all read back from what is written for them. -/
theorem books_read_back :
    (∀ j : Job, Job.decode j.encode = .ok j) ∧
      (∀ s : AttemptFailureSummary, AttemptFailureSummary.decode s.encode = .ok s) ∧
      (∀ s : StreamSyncStats, StreamSyncStats.decode s.encode = .ok s) ∧
      (∀ t : StreamStatsTotals, StreamStatsTotals.decode t.encode = .ok t) ∧
      ∀ i : RateLimitedInfo, RateLimitedInfo.decode i.encode = .ok i :=
  ⟨Job.decode_encode, AttemptFailureSummary.decode_encode, StreamSyncStats.decode_encode,
    StreamStatsTotals.decode_encode, RateLimitedInfo.decode_encode⟩

end SyncLedger
