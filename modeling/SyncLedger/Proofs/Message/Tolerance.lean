import Mathlib.Tactic.SplitIfs
import SyncLedger.Proofs.Json.Range
import SyncLedger.Proofs.Json.Tolerance
import SyncLedger.Proofs.Message.ReadBack
import SyncLedger.Proofs.Stream.Reasons

/-!
# Messages of a later version

A connector may be newer than the worker. A message of a type that is not known is read as
`other` and moves nothing, and a field that is not known changes nothing in a message, whether
it is a field of the message or of a record inside. Every record has its layout here: its fields,
and the layouts of those that are records themselves.
-/

namespace SyncLedger

open Decode

/-! ## Layouts -/

def StreamDescriptor.layout : Layout := .record [("name", .plain), ("namespace", .plain)]

def RecordMessage.layout : Layout :=
  .record [("stream", .plain), ("namespace", .plain), ("data", .plain), ("emitted_at", .plain)]

def StreamState.layout : Layout :=
  .record [("stream_descriptor", StreamDescriptor.layout), ("stream_state", .plain)]

def StateMessage.layout : Layout :=
  .record [("type", .plain), ("stream", StreamState.layout), ("id", .plain)]

def RateLimitedReason.layout : Layout := .record [("quota_reset", .plain)]

def StreamStatusReason.layout : Layout :=
  .record [("type", .plain), ("rate_limited", RateLimitedReason.layout)]

def StreamStatusTrace.layout : Layout :=
  .record [("stream_descriptor", StreamDescriptor.layout), ("status", .plain),
    ("reasons", .list StreamStatusReason.layout)]

def TraceMessage.layout : Layout :=
  .record [("type", .plain), ("emitted_at", .plain), ("stream_status", StreamStatusTrace.layout)]

namespace Message

/-- The one field that a message has beside its type. -/
def ownField : Message → List (String × Layout)
  | .record _ => [("record", RecordMessage.layout)]
  | .state _ => [("state", StateMessage.layout)]
  | .trace _ => [("trace", TraceMessage.layout)]
  | .other => []

def layout (m : Message) : Layout := .record (("type", .plain) :: m.ownField)

end Message

/-! ## Records inside a message -/

section Records

variable (d : Dialect)

theorem StreamDescriptor.tolerates : Tolerates layout (decode d) :=
  Fields.Tolerates.record
    (Fields.tolerates_nothing _ |>.and (tolerates_plain _) |>.and (tolerates_plain _))
    rfl (by decide)

theorem RecordMessage.tolerates : Tolerates layout (decode d) :=
  Fields.Tolerates.record
    (Fields.tolerates_nothing _ |>.and (tolerates_plain _) |>.and (tolerates_plain _)
      |>.and (tolerates_plain _) |>.and (tolerates_plain _))
    rfl (by decide)

theorem StreamState.tolerates : Tolerates layout (decode d) :=
  Fields.Tolerates.record
    (Fields.tolerates_nothing _ |>.and (StreamDescriptor.tolerates d) |>.and (tolerates_plain _))
    rfl (by decide)

theorem StateMessage.tolerates : Tolerates layout (decode d) :=
  Fields.Tolerates.record
    (Fields.tolerates_nothing _ |>.and (tolerates_plain _)
      |>.and (StreamState.tolerates d).option |>.and (tolerates_plain _))
    rfl (by decide)

theorem RateLimitedReason.tolerates : Tolerates layout (decode d) :=
  Fields.Tolerates.record (Fields.tolerates_nothing _ |>.and (tolerates_plain _)) rfl (by decide)

theorem StreamStatusReason.tolerates : Tolerates layout (decode d) :=
  Fields.Tolerates.record
    (Fields.tolerates_nothing _ |>.and (tolerates_plain _)
      |>.and (RateLimitedReason.tolerates d).option)
    rfl (by decide)

theorem StreamStatusTrace.tolerates : Tolerates layout (decode d) :=
  Fields.Tolerates.record
    (Fields.tolerates_nothing _ |>.and (StreamDescriptor.tolerates d) |>.and (tolerates_plain _)
      |>.and (StreamStatusReason.tolerates d).list)
    rfl (by decide)

theorem TraceMessage.tolerates : Tolerates layout (decode d) :=
  Fields.Tolerates.record
    (Fields.tolerates_nothing _ |>.and (tolerates_plain _) |>.and (tolerates_plain _)
      |>.and (StreamStatusTrace.tolerates d).option)
    rfl (by decide)

end Records

/-! ## Messages -/

namespace Message

theorem tolerates_content {type : String} {c : String × Fields Message}
    (h : content type = some c) :
    ∃ fields, c.2.Tolerates fields ∧ c.2.Gives fun m => m.ownField = fields := by
  rw [content] at h
  split_ifs at h
  · cases h
    refine ⟨_, (Fields.tolerates_nothing _).and (RecordMessage.tolerates .content), ?_⟩
    refine Fields.Gives.and ?_ (Field.gives_true _)
    exact gives_nothing fun r _ => rfl
  · cases h
    refine ⟨_, (Fields.tolerates_nothing _).and (StateMessage.tolerates .content), ?_⟩
    refine Fields.Gives.and ?_ (Field.gives_true _)
    exact gives_nothing fun s _ => rfl
  · cases h
    refine ⟨_, (Fields.tolerates_nothing _).and (TraceMessage.tolerates .content), ?_⟩
    refine Fields.Gives.and ?_ (Field.gives_true _)
    exact gives_nothing fun t _ => rfl

theorem ofObject_tolerates {type : String} {o o' : List (String × Json)} {m : Message}
    (hwide : WidenedObject m.ownField o o') (h : ofObject type o = .ok m) :
    ofObject type o' = .ok m := by
  rw [ofObject] at h ⊢
  split at h
  · rename_i c hcontent
    obtain ⟨fields, htolerates, hgives⟩ := tolerates_content hcontent
    obtain rfl := gives_ofMembers hgives h
    exact htolerates.ofMembers hwide h
  · exact h

theorem ofList_tolerates {type : String} {js js' : List Json} {m : Message}
    (hlength : js'.length = js.length) (hwide : WidenedList m.ownField js js')
    (h : ofList type js = .ok m) : ofList type js' = .ok m := by
  rw [ofList] at h ⊢
  split at h
  · rename_i c hcontent
    obtain ⟨fields, htolerates, hgives⟩ := tolerates_content hcontent
    obtain rfl := gives_ofElements hgives h
    exact htolerates.ofElements hlength hwide h
  · have hgives : (nothing other).Gives fun m => m.ownField = [] := gives_nothing rfl
    rw [gives_ofElements hgives h] at hwide
    exact (Fields.tolerates_nothing other).ofElements hlength hwide h

theorem nodup_fields (m : Message) :
    ((("type", Layout.plain) :: m.ownField).map Prod.fst).Nodup := by
  cases m with
  | record | state | trace | other => simp [ownField]

/-- A message is the same with fields that are not known. -/
theorem decode_of_extends {j j' : Json} {m : Message} (hj : Extends m.layout j j')
    (h : decode j = .ok m) : decode j' = .ok m := by
  rcases eq_obj_or_arr_of_decode h with ⟨o, rfl⟩ | ⟨js, rfl⟩
  · obtain ⟨type, htype, hm⟩ := decode_obj_eq_ok_iff.mp h
    obtain ⟨o', rfl, hwide⟩ := hj.exists_obj m.nodup_fields
    obtain ⟨hwidetype, hwide⟩ := List.forall_mem_cons.mp hwide
    refine decode_obj_eq_ok_iff.mpr ⟨type, ?_, ofObject_tolerates hwide hm⟩
    rw [widened_plain hwidetype, htype]
  · obtain ⟨type, rest, rfl, hm⟩ := decode_arr_eq_ok_iff.mp h
    obtain ⟨js', rfl, hlength, hwide⟩ := hj.exists_arr
    have htype := widened_plain (hwide 0 _ rfl)
    obtain ⟨rest', rfl⟩ := List.head?_eq_some_iff.mp (List.head?_eq_getElem?.trans htype)
    exact decode_arr_eq_ok_iff.mpr
      ⟨type, rest', rfl, ofList_tolerates (Nat.succ.inj hlength) hwide.tail hm⟩

theorem content_eq_none {type : String} (hrecord : type ≠ "RECORD") (hstate : type ≠ "STATE")
    (htrace : type ≠ "TRACE") : content type = none := by
  rw [content, if_neg hrecord, if_neg hstate, if_neg htrace]

theorem decode_of_unknown {o : List (String × Json)} {type : String}
    (htype : Json.field? "type" o = some (.str type)) (h : content type = none) :
    decode (.obj o) = .ok .other := by
  refine decode_obj_eq_ok_iff.mpr ⟨type, htype, ?_⟩
  rw [ofObject, h]

/-- A message of a type that is not known is read as `other`, whatever else it holds, and
tracking it leaves everything as it was, the lists of evaluations and of updates included. A
message that is read is read as the same one if fields that are not known are added to it or to
the records inside. -/
theorem forward_compatible {σ ε : Type} (t : Tracker σ ε) :
    (∀ o type, Json.field? "type" o = some (.str type) →
      type ≠ "RECORD" → type ≠ "STATE" → type ≠ "TRACE" →
        decode (.obj o) = .ok .other ∧
          ∀ instant s, (t.recorded.asking.track ⟨.other, instant⟩ s).2 = s) ∧
      ∀ j j' m, decode j = .ok m → Extends m.layout j j' → decode j' = .ok m := by
  refine ⟨fun o type htype hrecord hstate htrace => ⟨?_, fun _ _ => rfl⟩, fun j j' m h hj => ?_⟩
  · exact decode_of_unknown htype (content_eq_none hrecord hstate htrace)
  · exact decode_of_extends hj h

/-- A log message, and a rate limit with a field that is not known. -/
theorem forward_compatible_newConnector :
    let held (details : List (String × Json)) : Json := .obj [("trace", .obj
      [("emitted_at", .int 0), ("stream_status", .obj
        [("reasons", .arr [.obj [("rate_limited", .obj details), ("type", .str "RATE_LIMITED")]]),
          ("status", .str "RUNNING"), ("stream_descriptor", .arr [.str "users"])]),
        ("type", .str "STREAM_STATUS")]), ("type", .str "TRACE")]
    decode (.obj [("record", .int 1), ("type", .str "LOG")]) = .ok .other ∧
      (decode (held [("quota_reset", .int 5)])).toOption.bind limit? = some ⟨some 5⟩ ∧
      decode (held [("attempts", .int 3), ("quota_reset", .int 5)]) =
        decode (held [("quota_reset", .int 5)]) := by
  intro held
  obtain ⟨hunknown, htolerates⟩ := forward_compatible Tracker.unanswered
  obtain ⟨m, hm⟩ : ∃ m, decode (held [("quota_reset", .int 5)]) = .ok (.trace m) := ⟨_, rfl⟩
  refine ⟨(hunknown _ "LOG" rfl (by decide) (by decide) (by decide)).1, rfl, ?_⟩
  rw [hm]
  refine htolerates _ _ _ hm ?_
  refine .inField [] _ (.tail _ (.head _)) ?_
  refine .inField [_] _ (.tail _ (.tail _ (.head _))) ?_
  refine .inField [] _ (.tail _ (.tail _ (.head _))) ?_
  refine .inItem [] [] ?_
  refine .inField [] _ (.tail _ (.head _)) ?_
  exact .here (.int 3) [] _ (by decide)

end Message

end SyncLedger
