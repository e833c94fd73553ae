import SyncLedger.Proofs.Stream.Account
import SyncLedger.Proofs.Stream.Announcement

/-!
# The reasons of a status

A tracker looks at the reasons of a reported status for one purpose only: to find the details of
a rate limit, for which it asks its flag client. `Message.reportsLimit` says of which messages
that is true. As long as the answer is not yes the reasons might as well not be there: the run
goes as if no source had ever given one.
-/

namespace SyncLedger

variable {σ ε : Type}

/-- The same report without its reasons. -/
def StreamStatusTrace.withoutReasons (r : StreamStatusTrace) : StreamStatusTrace :=
  { r with reasons := [] }

/-- An update without the instant at which it was made. -/
def StreamStatusUpdate.undated (u : StreamStatusUpdate) : StreamStatusUpdate :=
  { u with transitionedAt := default }

namespace Message

/-- The same message; if it reports a status of a stream, it gives no reasons. -/
def withoutReasons : Message → Message
  | .trace t => .trace { t with streamStatus := t.streamStatus.map .withoutReasons }
  | m => m

/-- The message reports a running stream, and one of its reasons is a rate limit with details. -/
def reportsLimit : Message → Bool
  | .trace ⟨.streamStatus, _, some r⟩ =>
    r.status = .running &&
      r.reasons.any fun reason => reason.type = .rateLimited && reason.rateLimited.isSome
  | _ => false

theorem isSome_limit? (m : Message) : m.limit?.isSome = m.reportsLimit := by
  cases m with
  | trace t =>
      obtain ⟨type, emittedAt, status⟩ := t
      cases type with
      | streamStatus =>
          cases status with
          | none => rfl
          | some r =>
              have hany : r.rateLimited.isSome = r.reasons.any
                  fun reason => reason.type = .rateLimited && reason.rateLimited.isSome := by
                rw [StreamStatusTrace.rateLimited, List.isSome_findSome?]
                congr 1
                funext reason
                rw [StreamStatusReason.limit?]
                cases reason.type with
                | rateLimited => rfl
                | other => rfl
              rw [reportsLimit, ← hany, limit?, report?, if_pos rfl, Option.bind_some]
              by_cases hstatus : r.status = .running
              · simp [hstatus]
              · simp [hstatus]
      | error | estimate | analytics | other => rfl
  | record r | state s | other => rfl

theorem report?_withoutReasons (m : Message) :
    m.withoutReasons.report? = m.report?.map .withoutReasons := by
  cases m with
  | trace t =>
      rw [withoutReasons, report?, report?]
      split_ifs
      · rfl
      · rfl
  | record r | state s | other => rfl

theorem limit?_withoutReasons (m : Message) : m.withoutReasons.limit? = none := by
  rw [limit?, report?_withoutReasons, Option.bind_map, Option.bind_eq_none_iff]
  intro r _
  rw [Function.comp_apply]
  split_ifs
  · rfl
  · rfl

end Message

namespace Heard

variable {h : Heard}

theorem throttle?_of_answer_ne (hoff : h.answer ≠ some (.ok true)) : h.throttle? = none := by
  unfold throttle?
  split
  · rename_i hanswer
    exact absurd hanswer hoff
  · rfl

/-- The answer matters only if it is yes. -/
theorem observation?_of_answer_ne (hoff : h.answer ≠ some (.ok true)) :
    h.observation? = (Heard.mk h.message none).observation? := by
  have hnone : (Heard.mk h.message none).throttle? = none := rfl
  simp only [observation?, throttle?_of_answer_ne hoff, hnone]

/-- Unless the flag is on a message shows what it shows without its reasons. -/
theorem observation?_withoutReasons (m : Message) :
    (Heard.mk m.withoutReasons none).observation? = (Heard.mk m none).observation? := by
  have hreport' := m.report?_withoutReasons
  cases hreport : m.report? with
  | some r =>
      rw [hreport, Option.map_some] at hreport'
      have hshown := observation?_of_report? (h := ⟨m, none⟩) hreport
      have hshown' := observation?_of_report? (h := ⟨m.withoutReasons, none⟩) hreport'
      rw [hshown, hshown']
      rfl
  | none =>
      rw [hreport, Option.map_none] at hreport'
      cases m with
      | trace t =>
          have hshown := observation?_eq_none (h := ⟨.trace t, none⟩) (by simp) hreport rfl
          have hshown' := observation?_eq_none (h := ⟨(Message.trace t).withoutReasons, none⟩)
            (by simp [Message.withoutReasons]) hreport' rfl
          rw [hshown, hshown']
      | record r | state s | other => rfl

end Heard

namespace Tracker

/-- The same tracker with a list of the evaluations that its flag client was asked for, the
latest one last. -/
def asking (t : Tracker σ ε) : Tracker (σ × List (Flag × FlagContext)) ε :=
  ⟨t.client.recorded, t.emitter, t.context⟩

/-- The evaluations of a run that begins with nothing. -/
def evaluations (t : Tracker σ ε) (flags : σ) (emitter : ε) (as : List Arrival) :
    List (Flag × FlagContext) :=
  (t.asking.after (flags, []) emitter as).flags.2

/-- No rate limit of a run is processed: whenever the flag client is asked, the flag is off or
cannot be evaluated. -/
def ProcessesNone (t : Tracker σ ε) (flags : σ) (ms : List Message) : Prop :=
  ∀ h ∈ t.history ms flags, h.answer ≠ some (.ok true)

/-- What is kept, without the list of evaluations. -/
def unasked (s : Tracking (σ × List (Flag × FlagContext)) ε) : Tracking σ ε :=
  ⟨s.store, s.flags.1, s.emitter⟩

theorem hear_asking (t : Tracker σ ε) (m : Message) (s : σ × List (Flag × FlagContext)) :
    t.asking.hear m s =
      ((t.hear m s.1).1, (t.hear m s.1).2,
        s.2 ++ if m.reportsLimit then [(.processRateLimitedMessages, t.context.flagContext)]
          else []) := by
  rw [← m.isSome_limit?, hear, hear]
  cases m.limit? with
  | none => simp
  | some reason => rfl

theorem unasked_track (t : Tracker σ ε) (a : Arrival)
    (s : Tracking (σ × List (Flag × FlagContext)) ε) :
    unasked (t.asking.track a s).2 = (t.track a (unasked s)).2 := by
  have hflags : (unasked s).flags = s.flags.1 := rfl
  rw [track_eq, track_eq, hear_asking, hflags]
  cases (t.hear a.message s.flags.1).1.observation? with
  | none => rfl
  | some p => rfl

/-- A list of the evaluations does not change the run. -/
theorem unasked_after (t : Tracker σ ε) (flags : σ) (emitter : ε) (as : List Arrival) :
    unasked (t.asking.after (flags, []) emitter as) = t.after flags emitter as := by
  induction as using List.reverseRecOn with
  | nil => rfl
  | append_singleton as a ih =>
      rw [after_append_singleton, after_append_singleton, unasked_track, ih]

/-- A message has the flag evaluated exactly if it reports a rate limit. -/
theorem evaluations_append_singleton (t : Tracker σ ε) (flags : σ) (emitter : ε)
    (as : List Arrival) (a : Arrival) :
    t.evaluations flags emitter (as ++ [a]) = t.evaluations flags emitter as ++
      if a.message.reportsLimit then [(.processRateLimitedMessages, t.context.flagContext)]
      else [] := by
  rw [evaluations, after_append_singleton, flags_track, hear_asking]
  rfl

theorem evaluations_eq (t : Tracker σ ε) (flags : σ) (emitter : ε) (as : List Arrival) :
    t.evaluations flags emitter as =
      ((as.map Arrival.message).filter Message.reportsLimit).map
        fun _ => (.processRateLimitedMessages, t.context.flagContext) := by
  induction as using List.reverseRecOn with
  | nil => rfl
  | append_singleton as a ih =>
      rw [evaluations_append_singleton, ih, List.map_append, List.filter_append, List.map_append]
      cases hlimit : a.message.reportsLimit with
      | true => simp [hlimit]
      | false => simp [hlimit]

theorem hear_withoutReasons (t : Tracker σ ε) (m : Message) (flags : σ) :
    t.hear m.withoutReasons flags = (⟨m.withoutReasons, none⟩, flags) := by
  rw [hear, m.limit?_withoutReasons]

/-- A client that never says that the flag is on processes no rate limit. -/
theorem processesNone_of_never {t : Tracker σ ε}
    (h : ∀ s, (t.client.evaluate .processRateLimitedMessages t.context.flagContext s).1 ≠ .ok true)
    (flags : σ) (ms : List Message) : t.ProcessesNone flags ms := by
  induction ms generalizing flags with
  | nil => exact List.forall_mem_nil _
  | cons m ms ih =>
      refine List.forall_mem_cons.mpr ⟨?_, ih _⟩
      rw [hear]
      cases m.limit? with
      | none => exact Option.some_ne_none _ ∘ Eq.symm
      | some reason => exact fun hanswer => h flags (Option.some.inj hanswer)

/-- Two runs that have come to the same store and, but for the instants, to the same updates. -/
structure Alike (s s' : Tracking σ (ε × List StreamStatusUpdate)) : Prop where
  store : s'.store = s.store
  updates : s'.emitter.2.map StreamStatusUpdate.undated =
    s.emitter.2.map StreamStatusUpdate.undated

theorem map_undated_updateOf? (context : RunContext) (instant instant' : DateTime)
    (c : StatusChange) :
    (updateOf? context instant c).map StreamStatusUpdate.undated =
      (updateOf? context instant' c).map StreamStatusUpdate.undated := by
  rw [updateOf?, updateOf?]
  split_ifs
  · rfl
  · rfl

section Alike

variable {t : Tracker σ ε} {s s' : Tracking σ (ε × List StreamStatusUpdate)}

theorem Alike.track {a b : Arrival} (h : Alike s s')
    (hmessage : b.message = a.message.withoutReasons)
    (hoff : (t.hear a.message s.flags).1.answer ≠ some (.ok true)) :
    Alike (t.recorded.track a s).2 (t.recorded.track b s').2 := by
  have hshown : (t.hear b.message s'.flags).1.observation? =
      (t.hear a.message s.flags).1.observation? := by
    rw [Heard.observation?_of_answer_ne hoff, hear_message, hmessage, hear_withoutReasons,
      Heard.observation?_withoutReasons]
  have hnews : (t.news? b s'.store s'.flags).map StreamStatusUpdate.undated =
      (t.news? a s.store s.flags).map StreamStatusUpdate.undated := by
    rw [news?, news?, hshown, h.store]
    cases (t.hear a.message s.flags).1.observation? with
    | none => rfl
    | some p => exact map_undated_updateOf? _ _ _ _
  have hshown' : (t.recorded.hear b.message s'.flags).1.observation? =
      (t.recorded.hear a.message s.flags).1.observation? := hshown
  constructor
  · rw [store_track, store_track, hshown', h.store]
  · rw [(t.track_recorded a s).2, (t.track_recorded b s').2, List.map_append, List.map_append,
      h.updates, ← Option.toList_map, ← Option.toList_map, hnews]

theorem Alike.trackAll {as bs : List Arrival} (h : Alike s s')
    (hmessages : bs.map Arrival.message = as.map (·.message.withoutReasons))
    (hnone : t.ProcessesNone s.flags (as.map Arrival.message)) :
    Alike (t.recorded.trackAll as s).2 (t.recorded.trackAll bs s').2 := by
  induction as generalizing bs s s' with
  | nil =>
      obtain rfl := List.map_eq_nil_iff.mp hmessages
      exact h
  | cons a as ih =>
      obtain ⟨b, bs, rfl, hmessage, hrest⟩ := List.map_eq_cons_iff.mp hmessages
      rw [ProcessesNone, List.map_cons, history, List.forall_mem_cons] at hnone
      have hflags : (t.recorded.track a s).2.flags = (t.hear a.message s.flags).2 :=
        t.recorded.flags_track a s
      have hlater : t.ProcessesNone (t.recorded.track a s).2.flags (as.map Arrival.message) := by
        rw [ProcessesNone, hflags]
        exact hnone.2
      rw [Tracker.trackAll, Tracker.trackAll]
      exact ih (h.track hmessage hnone.1) hrest hlater

end Alike

theorem reportsLimit_withoutReasons (m : Message) : m.withoutReasons.reportsLimit = false := by
  rw [← m.withoutReasons.isSome_limit?, m.limit?_withoutReasons]
  rfl

/-- Without rate limits that are processed a run comes to the same store and, but for their
instants, to the same updates as without all the reasons that sources give, and then the flag
is never evaluated. In every run it is evaluated once for each message that reports a rate
limit, for the workspace and the connection of the run. -/
theorem reasons_matter_if_processed (t : Tracker σ ε) (flags : σ) (emitter : ε)
    (as : List Arrival) :
    (t.ProcessesNone flags (as.map Arrival.message) → ∀ flags' emitter' bs,
      bs.map Arrival.message = as.map (·.message.withoutReasons) →
        (t.after flags' emitter' bs).store = (t.after flags emitter as).store ∧
        (t.updates flags' emitter' bs).map StreamStatusUpdate.undated =
          (t.updates flags emitter as).map StreamStatusUpdate.undated ∧
        t.evaluations flags' emitter' bs = []) ∧
    unasked (t.asking.after (flags, []) emitter as) = t.after flags emitter as ∧
    t.evaluations flags emitter as =
      ((as.map Arrival.message).filter Message.reportsLimit).map fun _ =>
        (.processRateLimitedMessages, ⟨t.context.workspaceId, t.context.connectionId⟩) := by
  refine ⟨fun hnone flags' emitter' bs hmessages => ?_, t.unasked_after flags emitter as,
    t.evaluations_eq flags emitter as⟩
  have halike : Alike (t.recorded.trackAll as ⟨.empty, flags, (emitter, [])⟩).2
      (t.recorded.trackAll bs ⟨.empty, flags', (emitter', [])⟩).2 :=
    Alike.trackAll ⟨rfl, rfl⟩ hmessages hnone
  refine ⟨?_, halike.updates, ?_⟩
  · rw [t.store_after flags' emitter' bs, t.store_after flags emitter as]
    exact halike.store
  · rw [evaluations_eq, hmessages]
    simp [List.filter_map, reportsLimit_withoutReasons]

/-- A tracker whose flag service cannot be reached. -/
def unanswered : Tracker Unit Unit :=
  ⟨⟨fun flag _ s => (.error ⟨flag, ["connection refused"]⟩, s)⟩, .silent, default⟩

/-- The flag is asked for once, and the stream goes on as running. -/
theorem reasons_matter_if_processed_unanswered :
    let arrivals := heldBack ⟨"users", none⟩
    let bare := arrivals.map fun a => ⟨a.message.withoutReasons, a.instant⟩
    unanswered.ProcessesNone () (arrivals.map Arrival.message) ∧
      bare.map Arrival.message = arrivals.map (·.message.withoutReasons) ∧
      (unanswered.after () () bare).store = (unanswered.after () () arrivals).store ∧
      (unanswered.updates () () arrivals).map StreamStatusUpdate.runState = [.running] ∧
      unanswered.evaluations () () arrivals = [(.processRateLimitedMessages, default)] := by
  intro arrivals bare
  have hnone : unanswered.ProcessesNone () (arrivals.map Arrival.message) := by
    refine processesNone_of_never (fun s hanswer => ?_) () _
    cases hanswer
  obtain ⟨herased, -, hasked⟩ := unanswered.reasons_matter_if_processed () () arrivals
  exact ⟨hnone, rfl, (herased hnone () () bare rfl).1, rfl, hasked⟩

end Tracker

end SyncLedger
