import Mathlib.Tactic.SplitIfs
import SyncLedger.Message
import SyncLedger.Proofs.Json.Range

/-!
# Messages that are written again

A message that was read is read back from what is written for it. The one thing that could get
lost is a cursor that is `null`: it is written like any other, but a `null` is read as no cursor
at all. No data is read as such a message, which is what the second half of this file is about:
`Gives` is a property of everything that a decoder can give.
-/

namespace SyncLedger

open Decode

/-! ## Reading what was written -/

theorem StreamDescriptor.decode_encode (d : Dialect) (s : StreamDescriptor) :
    decode d s.encode = .ok s := by
  refine record_obj d _ (((reads_nothing _).and ?_).and ?_)
  · exact Field.reads_of_present rfl rfl
  · refine reads_optional .str ?_ (fun _ _ => rfl) (fun _ _ => Json.noConfusion)
    simp [Json.field?_cons, Json.field?_optionalField]

theorem RecordMessage.decode_encode (d : Dialect) (r : RecordMessage) :
    decode d r.encode = .ok r := by
  refine record_obj d _ (((((reads_nothing _).and ?_).and ?_).and ?_).and ?_)
  · exact Field.reads_of_present rfl rfl
  · refine reads_optional .str ?_ (fun _ _ => rfl) (fun _ _ => Json.noConfusion)
    simp [Json.field?_cons, Json.field?_append, Json.field?_optionalField]
  · refine reads_defaulted (j := r.data) ?_ rfl
    simp [Json.field?_cons, Json.field?_append, Json.field?_optionalField]
  · refine reads_required ?_ (int64_toInt r.emittedAt)
    simp [Json.field?_cons, Json.field?_append, Json.field?_optionalField]

theorem StateType.decode_encode (d : Dialect) (t : StateType) : decode d t.encode = .ok t := by
  refine variant_str d none ?_
  cases t with
  | stream | global | legacy => rfl

theorem StateId.decode_encode (i : StateId) : decode i.encode = .ok i := by
  rw [decode, encode, uint64_toNat]
  rfl

/-- A cursor that is `null` is read as none. -/
theorem StreamState.decode_encode (d : Dialect) {s : StreamState} (h : s.state ≠ some .null) :
    decode d s.encode = .ok s := by
  refine record_obj d _ (((reads_nothing _).and ?_).and ?_)
  · exact Field.reads_of_present rfl (StreamDescriptor.decode_encode d s.descriptor)
  · refine reads_optional id ?_ (fun _ _ => rfl) ?_
    · simp [Json.field?_cons, Json.field?_optionalField]
    · rintro j hj rfl
      exact h hj

theorem StateMessage.decode_encode (d : Dialect) {m : StateMessage}
    (h : ∀ s ∈ m.stream, s.state ≠ some .null) : decode d m.encode = .ok m := by
  refine record_obj d _ ((((reads_nothing _).and ?_).and ?_).and ?_)
  · refine reads_optional StateType.encode ?_ (fun t _ => StateType.decode_encode d t)
      (fun _ _ => Json.noConfusion)
    simp [Json.field?_append, Json.field?_optionalField]
  · refine reads_optional StreamState.encode ?_ (fun s hs => StreamState.decode_encode d (h s hs))
      (fun _ _ => Json.noConfusion)
    simp [Json.field?_append, Json.field?_optionalField]
  · refine reads_optional StateId.encode ?_ (fun i _ => i.decode_encode)
      (fun _ _ => Json.noConfusion)
    simp [Json.field?_append, Json.field?_optionalField]

theorem TraceType.decode_encode (d : Dialect) (t : TraceType) : decode d t.encode = .ok t := by
  refine variant_str d _ ?_
  cases t with
  | error | estimate | streamStatus | analytics | other => rfl

theorem StreamStatus.decode_encode (d : Dialect) (s : StreamStatus) :
    decode d s.encode = .ok s := by
  refine variant_str d none ?_
  cases s with
  | started | running | complete | incomplete => rfl

theorem ReasonType.decode_encode (d : Dialect) (t : ReasonType) : decode d t.encode = .ok t := by
  refine variant_str d _ ?_
  cases t with
  | rateLimited | other => rfl

theorem RateLimitedReason.decode_encode (d : Dialect) (r : RateLimitedReason) :
    decode d r.encode = .ok r := by
  refine record_obj d _ ((reads_nothing _).and ?_)
  refine reads_optional (fun n => .int n.toInt) ?_ (fun n _ => int64_toInt n)
    (fun _ _ => Json.noConfusion)
  simp [Json.field?_optionalField]

theorem StreamStatusReason.decode_encode (d : Dialect) (r : StreamStatusReason) :
    decode d r.encode = .ok r := by
  refine record_obj d _ (((reads_nothing _).and ?_).and ?_)
  · exact Field.reads_of_present rfl (ReasonType.decode_encode d r.type)
  · refine reads_optional RateLimitedReason.encode ?_
      (fun x _ => RateLimitedReason.decode_encode d x) (fun _ _ => Json.noConfusion)
    simp [Json.field?_cons, Json.field?_optionalField]

theorem StreamStatusTrace.decode_encode (d : Dialect) (t : StreamStatusTrace) :
    decode d t.encode = .ok t := by
  refine record_obj d _ ((((reads_nothing _).and ?_).and ?_).and ?_)
  · exact Field.reads_of_present rfl (StreamDescriptor.decode_encode d t.descriptor)
  · exact Field.reads_of_present rfl (StreamStatus.decode_encode d t.status)
  · cases hreasons : t.reasons with
    | nil => exact Field.reads_of_absent (by simp [defaulted, Json.field?_cons]) rfl
    | cons r rs =>
        refine reads_defaulted (j := .arr (t.reasons.map StreamStatusReason.encode)) ?_ ?_
        · simp [hreasons, Json.field?_cons]
        · rw [← hreasons]
          exact list_map fun r _ => StreamStatusReason.decode_encode d r

theorem TraceMessage.decode_encode (d : Dialect) (t : TraceMessage) :
    decode d t.encode = .ok t := by
  refine record_obj d _ ((((reads_nothing _).and ?_).and ?_).and ?_)
  · exact Field.reads_of_present rfl (TraceType.decode_encode d t.type)
  · exact Field.reads_of_present rfl rfl
  · refine reads_optional StreamStatusTrace.encode ?_
      (fun x _ => StreamStatusTrace.decode_encode d x) (fun _ _ => Json.noConfusion)
    simp [Json.field?_cons, Json.field?_optionalField]

namespace Message

/-- The cursor that a message carries for a stream. -/
def cursor? : Message → Option Json
  | .state s => s.stream.bind StreamState.state
  | _ => none

theorem decode_encode {m : Message} (h : m.cursor? ≠ some .null) : decode m.encode = .ok m := by
  cases m with
  | record r =>
      refine ofMembers_eq_ok_iff.mpr ((reads_nothing _).and ?_)
      exact Field.reads_of_present rfl (RecordMessage.decode_encode .content r)
  | state s =>
      refine ofMembers_eq_ok_iff.mpr ((reads_nothing _).and ?_)
      refine Field.reads_of_present rfl (StateMessage.decode_encode .content fun stream hs => ?_)
      rwa [cursor?, Option.mem_def.mp hs] at h
  | trace t =>
      refine ofMembers_eq_ok_iff.mpr ((reads_nothing _).and ?_)
      exact Field.reads_of_present rfl (TraceMessage.decode_encode .content t)
  | other => rfl

end Message

/-! ## What can be read -/

theorem StreamState.gives_cursor (d : Dialect) :
    Gives (decode d) fun s => s.state ≠ some .null := by
  have hstate : (optional "stream_state" any).Gives (· ≠ some .null) :=
    gives_optional gives_option_any (Option.some_ne_none _).symm
  refine gives_record d _ (Fields.Gives.and ?_ hstate)
  refine Fields.Gives.and ?_ (Field.gives_true _)
  exact gives_nothing fun descriptor _ state hstate => hstate

theorem StateMessage.gives_cursor (d : Dialect) :
    Gives (decode d) fun m => ∀ s ∈ m.stream, s.state ≠ some .null := by
  have hstream : (optional "stream" (StreamState.decode d)).Gives
      fun x => ∀ s ∈ x, s.state ≠ some .null :=
    gives_optional (gives_option (StreamState.gives_cursor d)) fun _ hs => nomatch hs
  refine gives_record d _ (Fields.Gives.and ?_ (Field.gives_true _))
  refine Fields.Gives.and ?_ hstream
  refine Fields.Gives.and ?_ (Field.gives_true _)
  exact gives_nothing fun type _ stream hstream id _ => hstream

namespace Message

theorem type?_eq_ok_iff {j : Json} {type : String} : type? j = .ok type ↔ j = .str type := by
  cases j with
  | str s => simp [type?]
  | null | bool | int | float | char | arr | obj => simp [type?, fail]

theorem decode_obj_eq_ok_iff {o : List (String × Json)} {m : Message} :
    decode (.obj o) = .ok m ↔
      ∃ type, Json.field? "type" o = some (.str type) ∧ ofObject type o = .ok m := by
  rw [decode]
  cases Json.field? "type" o with
  | none => simp [fail]
  | some j =>
      cases htype : type? j with
      | error e =>
          have hj : ∀ type, j ≠ .str type := by
            rintro type rfl
            cases htype
          simp [htype, inside, hj]
      | ok type =>
          obtain rfl := type?_eq_ok_iff.mp htype
          simp [htype, inside]

theorem decode_arr_eq_ok_iff {js : List Json} {m : Message} :
    decode (.arr js) = .ok m ↔
      ∃ type rest, js = .str type :: rest ∧ ofList type rest = .ok m := by
  constructor
  · intro h
    cases js with
    | nil => cases h
    | cons j js =>
        rw [decode] at h
        cases htype : type? j with
        | error e =>
            rw [htype] at h
            cases h
        | ok type =>
            obtain rfl := type?_eq_ok_iff.mp htype
            exact ⟨type, js, rfl, h⟩
  · rintro ⟨type, rest, rfl, h⟩
    exact h

theorem eq_obj_or_arr_of_decode {j : Json} {m : Message} (h : decode j = .ok m) :
    (∃ o, j = .obj o) ∨ ∃ js, j = .arr js := by
  cases j with
  | obj o => exact .inl ⟨o, rfl⟩
  | arr js => exact .inr ⟨js, rfl⟩
  | null | bool | int | float | str | char => cases h

theorem gives_cursor_content {type : String} {c : String × Fields Message}
    (h : content type = some c) : c.2.Gives fun m => m.cursor? ≠ some .null := by
  have hnone : ∀ m : Message, m.cursor? = none → m.cursor? ≠ some .null := by
    intro m hm
    rw [hm]
    exact (Option.some_ne_none _).symm
  have hstate : (required "state" (StateMessage.decode .content)).Gives
      fun s => ∀ stream ∈ s.stream, stream.state ≠ some .null :=
    gives_required (StateMessage.gives_cursor .content)
  rw [content] at h
  split_ifs at h
  · cases h
    refine Fields.Gives.and ?_ (Field.gives_true _)
    exact gives_nothing fun r _ => hnone _ rfl
  · cases h
    refine Fields.Gives.and (gives_nothing fun s hs => ?_) hstate
    rw [cursor?, Ne, Option.bind_eq_some_iff]
    rintro ⟨stream, hstream, hnull⟩
    exact hs stream hstream hnull
  · cases h
    refine Fields.Gives.and ?_ (Field.gives_true _)
    exact gives_nothing fun t _ => hnone _ rfl

theorem gives_cursor : Gives decode fun m => m.cursor? ≠ some .null := by
  intro j m h
  rcases eq_obj_or_arr_of_decode h with ⟨o, rfl⟩ | ⟨js, rfl⟩
  · obtain ⟨type, -, hm⟩ := decode_obj_eq_ok_iff.mp h
    rw [ofObject] at hm
    split at hm
    · rename_i hcontent
      exact gives_ofMembers (gives_cursor_content hcontent) hm
    · cases hm
      exact (Option.some_ne_none _).symm
  · obtain ⟨type, rest, -, hm⟩ := decode_arr_eq_ok_iff.mp h
    rw [ofList] at hm
    split at hm
    · rename_i hcontent
      exact gives_ofElements (gives_cursor_content hcontent) hm
    · have hother : (nothing other).Gives fun m => m.cursor? ≠ some .null :=
        gives_nothing (Option.some_ne_none _).symm
      exact gives_ofElements hother hm

/-- What is written of a message that was read. -/
def reencode (j : Json) : Except DecodeError Json := (decode j).map encode

/-- Every message that was read is read back from what is written for it, so that reading and
writing it again changes nothing any more. -/
theorem decode_encode_of_decode {j : Json} {m : Message} (h : decode j = .ok m) :
    decode m.encode = .ok m ∧ reencode j = .ok m.encode ∧ reencode m.encode = .ok m.encode := by
  have hagain := decode_encode (gives_cursor j m h)
  refine ⟨hagain, ?_, ?_⟩
  · rw [reencode, h, Except.map]
  · rw [reencode, hagain, Except.map]

/-- A checkpoint as a list, with a variant as an object, a stream as a list of its fields, a
`null` for a cursor, and a field that is not known. -/
theorem decode_encode_of_decode_unusual :
    let j : Json := .arr [.str "STATE", .obj [("id", .int 7), ("note", .bool true),
      ("stream", .arr [.arr [.str "users"], .null]), ("type", .obj [("GLOBAL", .null)])]]
    let m : Message := .state ⟨some .global, some ⟨⟨"users", none⟩, none⟩, some ⟨7⟩⟩
    decode j = .ok m ∧ decode m.encode = .ok m ∧ reencode m.encode = reencode j := by
  intro j m
  have h : decode j = .ok m := rfl
  obtain ⟨hagain, hfirst, hsecond⟩ := decode_encode_of_decode h
  exact ⟨h, hagain, hsecond.trans hfirst.symm⟩

end Message

end SyncLedger
