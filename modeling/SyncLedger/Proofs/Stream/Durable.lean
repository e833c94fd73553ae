import Mathlib.Logic.Function.Basic
import SyncLedger.Proofs.Stream.Account
import SyncLedger.Proofs.Stream.Announcement
import SyncLedger.Proofs.Stream.Exchange

/-!
# Durable records

A faithful service keeps records that say of which run and which stream they are. It does
what it is asked, or it fails and changes nothing. A tracker that reports to a reconciler
never has more than one record of a stream there: what the service keeps of a stream is
what the cache holds. So a request that is left out would have changed nothing, and a
failed request leaves the record of the last one that did not fail.
-/

namespace SyncLedger

/-- What a record of a service says: the run and the stream it is about, and a run state. -/
structure StoredStatus where
  context : RunContext
  key : StreamKey
  runState : RunState
deriving DecidableEq

namespace StreamStatusRequest

def context (r : StreamStatusRequest) : RunContext :=
  ⟨r.workspaceId, r.connectionId, r.jobId, r.attemptNumber⟩

def key (r : StreamStatusRequest) : StreamKey := ⟨r.connectionId, r.streamSpace, r.streamName⟩

/-- What the record says that a request creates. -/
def stored (r : StreamStatusRequest) : StoredStatus := ⟨r.context, r.key, r.runState⟩

theorem stored_ofUpdate {u : StreamStatusUpdate}
    (h : u.key.connectionId = u.context.connectionId) :
    (ofUpdate u).stored = ⟨u.context, u.key, u.runState⟩ := by
  obtain ⟨⟨connection, space, name⟩, state, metadata, context, instant⟩ := u
  obtain rfl : connection = context.connectionId := h
  rfl

end StreamStatusRequest

/-- The records of a service by their identifiers. -/
abbrev StatusRecords := Uuid → Option StoredStatus

/-- The record is one of a stream of a run. -/
def StatusRecords.Has (records : StatusRecords) (context : RunContext) (k : StreamKey)
    (r : StreamStatusRecord) : Prop :=
  records r.id = some ⟨context, k, r.runState⟩

/-- What a service keeps can be read as records. A request that fails changes nothing. One
that succeeds adds a record under an identifier that was free, or sets the run state of the
record that it names, and the reply is the record. -/
structure StatusApi.Faithful {α : Type} (api : StatusApi α) (view : α → StatusRecords) :
    Prop where
  failed : ∀ c s e, (api.answer c s).1 = .error e → view (api.answer c s).2 = view s
  created : ∀ r s record, (api.answer (.create r) s).1 = .ok record →
    view s record.id = none ∧ record.runState = r.runState ∧
      view (api.answer (.create r) s).2 = Function.update (view s) record.id (some r.stored)
  updated : ∀ id r s record stored, (api.answer (.update id r) s).1 = .ok record →
    view s id = some stored → record = ⟨id, r.runState⟩ ∧
      view (api.answer (.update id r) s).2 =
        Function.update (view s) id (some { stored with runState := r.runState })

/-! ## A ledger of records -/

/-- A service that keeps its records in a table. -/
structure StatusLedger where
  records : Table Uuid StoredStatus
  /-- Whether the next requests fail, one entry for each; afterwards none does. -/
  failures : List Bool

namespace StatusLedger

def view (s : StatusLedger) : StatusRecords := s.records.get?

def refuse (reason : String) (s : StatusLedger) :
    StatusReply × StatusLedger :=
  (.error ⟨[reason]⟩, { s with failures := s.failures.tail })

def write (id : Uuid) (stored : StoredStatus) (s : StatusLedger) : StatusReply × StatusLedger :=
  (.ok ⟨id, stored.runState⟩, ⟨s.records.insert id stored, s.failures.tail⟩)

/-- The service over a ledger. New records are numbered from 1. -/
def api : StatusApi StatusLedger where
  answer call s :=
    if s.failures.headD false then refuse "service unavailable" s
    else
      match call with
      | .create r =>
        let id := Uuid.ofNat (s.records.size + 1)
        match s.view id with
        | none => write id r.stored s
        | some _ => refuse "identifier taken" s
      | .update id r =>
        match s.view id with
        | some stored => write id { stored with runState := r.runState } s
        | none => refuse "no such record" s

theorem view_write (id : Uuid) (stored : StoredStatus) (s : StatusLedger) :
    (write id stored s).2.view = Function.update s.view id (some stored) := by
  funext a
  rw [Function.update_apply]
  exact Table.get?_insert s.records id stored a

theorem api_faithful : api.Faithful view where
  failed c s e h := by
    simp only [api] at h ⊢
    split
    · rfl
    · rename_i hopen
      rw [if_neg hopen] at h
      cases c with
      | create r =>
          simp only at h ⊢
          split at h
          · cases h
          · rfl
      | update id r =>
          simp only at h ⊢
          split at h
          · cases h
          · rfl
  created r s record h := by
    simp only [api] at h ⊢
    split at h
    · cases h
    · rename_i hopen
      rw [if_neg hopen]
      split at h
      · rename_i hfree
        obtain rfl := Except.ok.inj h
        exact ⟨hfree, rfl, view_write _ _ s⟩
      · cases h
  updated id r s record stored h hstored := by
    simp only [api, hstored] at h ⊢
    split at h
    · cases h
    · rename_i hopen
      rw [if_neg hopen]
      obtain rfl := Except.ok.inj h
      exact ⟨rfl, view_write _ _ s⟩

end StatusLedger

/-! ## The cache and the records -/

section Records

variable {records : StatusRecords} {context : RunContext} {k : StreamKey} {r : StreamStatusRecord}

theorem StatusRecords.has_update (id : Uuid) (stored : StoredStatus)
    (hcontext : stored.context = context) :
    StatusRecords.Has (Function.update records id (some stored)) context k r ↔
      if r.id = id then k = stored.key ∧ r.runState = stored.runState
      else records.Has context k r := by
  obtain ⟨_, key, state⟩ := stored
  obtain rfl : _ = context := hcontext
  rw [Has, Function.update_apply]
  split_ifs with hid
  · rw [Option.some.injEq, StoredStatus.mk.injEq, eq_comm (a := k), eq_comm (a := r.runState)]
    exact and_iff_right rfl
  · rfl

end Records

/-- The records of a run are those in the cache. -/
def Agree (context : RunContext) (records : StatusRecords) (cache : ResponseCache) : Prop :=
  ∀ k r, records.Has context k r ↔ Table.get? cache k = some r

namespace Agree

variable {context : RunContext} {records : StatusRecords} {cache : ResponseCache}

/-- Writing the one record of a stream to both sides. -/
theorem write (h : Agree context records cache) {k : StreamKey} {r : StreamStatusRecord}
    (hrecord : ∀ q, records.Has context k q → q.id = r.id)
    (hid : ∀ j q, records.Has context j q → q.id = r.id → j = k) :
    Agree context (Function.update records r.id (some ⟨context, k, r.runState⟩))
      (Table.insert cache k r) := by
  intro j q
  rw [StatusRecords.has_update _ _ rfl, Table.get?_insert]
  by_cases hj : j = k
  · obtain rfl := hj
    rw [if_pos rfl, Option.some.injEq, eq_comm (a := r)]
    split_ifs with hq
    · obtain ⟨id, state⟩ := q
      obtain rfl : id = r.id := hq
      cases r
      simp
    · refine iff_of_false (fun hhas => hq (hrecord q hhas)) ?_
      rintro rfl
      exact hq rfl
  · rw [if_neg hj, ← h j q]
    split_ifs with hq
    · exact iff_of_false (fun hkey => hj hkey.1) fun hhas => hj (hid j q hhas hq)
    · rfl

end Agree

namespace Reconciler

variable {α : Type} {api : StatusApi α} {view : α → StatusRecords} {context : RunContext}

/-- An update of a stream of a run. -/
def IsOf (context : RunContext) (u : StreamStatusUpdate) : Prop :=
  u.context = context ∧ u.key.connectionId = context.connectionId

section Emit

variable {u : StreamStatusUpdate} {s : Reconciling α}

theorem IsOf.stored_ofUpdate (hu : IsOf context u) :
    (StreamStatusRequest.ofUpdate u).stored = ⟨context, u.key, u.runState⟩ := by
  obtain ⟨rfl, hconnection⟩ := hu
  exact StreamStatusRequest.stored_ofUpdate hconnection

/-- A successful request writes the run state of the update under the identifier of its record,
which was no record of another stream, nor was there another record of this one. -/
theorem written_of_ok (hapi : api.Faithful view) (hu : IsOf context u)
    (h : Agree context (view s.service) s.cache) {call : StatusCall} {r : StreamStatusRecord}
    (hcall : call? s.cache u = some call) (hok : (api.answer call s.service).1 = .ok r) :
    r.runState = u.runState ∧
      view (api.answer call s.service).2 =
        Function.update (view s.service) r.id (some ⟨context, u.key, r.runState⟩) ∧
      (∀ q, (view s.service).Has context u.key q → q.id = r.id) ∧
      ∀ j q, (view s.service).Has context j q → q.id = r.id → j = u.key := by
  cases hget : Table.get? s.cache u.key with
  | none =>
      obtain rfl := Option.some.inj ((call?_of_unknown hget).symm.trans hcall)
      obtain ⟨hfree, hstate, hview⟩ := hapi.created _ _ _ hok
      refine ⟨hstate, ?_, fun q hq => ?_, fun j q hq hid => ?_⟩
      · rw [hview, hu.stored_ofUpdate, hstate]
        rfl
      · rw [h u.key q, hget] at hq
        cases hq
      · rw [StatusRecords.Has, hid, hfree] at hq
        cases hq
  | some old =>
      have hold : (view s.service).Has context u.key old := (h u.key old).mpr hget
      have houtdated : old.runState ≠ u.runState := by
        intro hstate
        rw [call?_of_stored hget hstate] at hcall
        cases hcall
      obtain rfl := Option.some.inj ((call?_of_outdated hget houtdated).symm.trans hcall)
      obtain ⟨rfl, hview⟩ := hapi.updated _ _ _ _ _ hok hold
      refine ⟨rfl, hview, fun q hq => ?_, fun j q hq hid => ?_⟩
      · rw [h u.key q, hget] at hq
        rw [Option.some.inj hq]
      · rw [StatusRecords.Has, hid] at hq
        exact congrArg StoredStatus.key (Option.some.inj (hq.symm.trans hold))

theorem agree_emit (hapi : api.Faithful view) (hu : IsOf context u)
    (h : Agree context (view s.service) s.cache) :
    Agree context (view (emit api u s).2.service) (emit api u s).2.cache := by
  cases hcall : call? s.cache u with
  | none =>
      rw [(emit_of_call?_eq_none api hcall).2]
      exact h
  | some call =>
      rw [(emit_of_call?_eq_some api hcall).2]
      cases hreply : (api.answer call s.service).1 with
      | error e =>
          rw [remember, hapi.failed _ _ _ hreply]
          exact h
      | ok r =>
          obtain ⟨-, hview, hrecord, hid⟩ := written_of_ok hapi hu h hcall hreply
          rw [remember, hview]
          exact h.write hrecord hid

/-- After an exchange that did not fail the record of the stream has the run state of the
update. -/
theorem get?_emit_of_not_hasFailed (hapi : api.Faithful view) (hu : IsOf context u)
    (h : Agree context (view s.service) s.cache) (hdone : ¬ (exchange api u s).HasFailed) :
    ∃ r, Table.get? (emit api u s).2.cache u.key = some r ∧ r.runState = u.runState := by
  cases hcall : call? s.cache u with
  | none =>
      rw [(emit_of_call?_eq_none api hcall).2]
      cases hget : Table.get? s.cache u.key with
      | none =>
          rw [call?_of_unknown hget] at hcall
          cases hcall
      | some r =>
          refine ⟨r, rfl, ?_⟩
          by_contra hstate
          rw [call?_of_outdated hget hstate] at hcall
          cases hcall
  | some call =>
      obtain ⟨hexchange, hemit⟩ := emit_of_call?_eq_some api hcall
      cases hreply : (api.answer call s.service).1 with
      | error e =>
          rw [hexchange] at hdone
          exact absurd ⟨_, List.mem_singleton_self _, by rw [hreply]; rfl⟩ hdone
      | ok r =>
          rw [hemit, hreply]
          exact ⟨r, Table.get?_insert_self s.cache u.key r,
            (written_of_ok hapi hu h hcall hreply).1⟩

end Emit

variable {service : α} {us : List StreamStatusUpdate}

def HasNone (context : RunContext) (records : StatusRecords) : Prop :=
  ∀ k r, ¬ records.Has context k r

theorem agree_after (hapi : api.Faithful view) (hnew : HasNone context (view service))
    (hus : ∀ u ∈ us, IsOf context u) :
    Agree context (view (after api service us).service) (after api service us).cache := by
  induction us using List.reverseRecOn with
  | nil =>
      intro k r
      exact iff_of_false (hnew k r) (by rintro ⟨⟩)
  | append_singleton us u ih =>
      obtain ⟨hus, hu⟩ := List.forall_mem_append.mp hus
      rw [after_append_singleton]
      exact agree_emit hapi (hu u (List.mem_singleton_self u)) (ih hus)

/-- The record of a stream is the one that its last exchange without a failure left. -/
theorem has_of_split (hapi : api.Faithful view) (hnew : HasNone context (view service))
    (hus : ∀ u ∈ us, IsOf context u) {before later : List Exchange} {e : Exchange}
    (hsplit : exchangesFrom api service us = before ++ e :: later) (hdone : ¬ e.HasFailed)
    (hlater : ∀ f ∈ later, f.update.key = e.update.key → f.HasFailed) :
    ∃ r, r.runState = e.update.runState ∧
      (view (after api service us).service).Has context e.update.key r ∧
      (view (after api service ((before ++ [e]).map Exchange.update)).service).Has context
        e.update.key r := by
  have hbegin : before ++ [e] <+: exchangesFrom api service us :=
    ⟨later, by rw [hsplit, List.append_assoc, List.singleton_append]⟩
  obtain ⟨hbefore, he⟩ := eq_exchange_of_begins api service us hbegin
  have hmap : us = (before ++ [e]).map Exchange.update ++ later.map Exchange.update := by
    rw [← List.map_append, List.append_assoc, List.singleton_append, ← hsplit,
      map_update_exchangesFrom]
  have hthen : ∀ u ∈ (before ++ [e]).map Exchange.update, IsOf context u := by
    rw [hmap] at hus
    exact (List.forall_mem_append.mp hus).1
  have hagree := agree_after hapi hnew hthen
  rw [List.map_append, List.map_singleton] at hthen hagree ⊢
  obtain ⟨hbeforeOf, heOf⟩ := List.forall_mem_append.mp hthen
  obtain ⟨r, hget, hstate⟩ := get?_emit_of_not_hasFailed hapi
    (heOf e.update (List.mem_singleton_self _)) (agree_after hapi hnew hbeforeOf)
    (by rwa [he])
  rw [← after_append_singleton] at hget
  refine ⟨r, hstate, ?_, (hagree e.update.key r).mpr hget⟩
  -- the exchanges since then have brought no record of the stream
  have hnone : Exchange.lastRecord? e.update.key later = none := by
    refine Exchange.lastRecord?_eq_none fun f hf hkey => ?_
    have hmem : f ∈ exchangesFrom api service us := by
      rw [hsplit]
      exact List.mem_append_right before (List.mem_cons_of_mem e hf)
    obtain ⟨s, hs⟩ := eq_exchange_of_mem api hmem
    have hfollows := exchange_follows api f.update s
    rw [← hs] at hfollows
    exact hfollows.record?_eq_none_of_hasFailed (hlater f hf hkey)
  rw [agree_after hapi hnew hus, get?_after, hsplit, ← List.singleton_append, ← List.append_assoc,
    Exchange.lastRecord?_append, hnone, Option.none_or, ← hget, get?_after,
    exchangesFrom_append_singleton, hbefore, he]

theorem not_has_of_failed (hapi : api.Faithful view) (hnew : HasNone context (view service))
    (hus : ∀ u ∈ us, IsOf context u) {k : StreamKey}
    (hfailed : ∀ e ∈ exchangesFrom api service us, e.update.key = k → e.HasFailed)
    (r : StreamStatusRecord) : ¬ (view (after api service us).service).Has context k r := by
  rw [agree_after hapi hnew hus, get?_after, Exchange.lastRecord?_eq_none]
  · rintro ⟨⟩
  · intro e he hkey
    obtain ⟨s, hs⟩ := eq_exchange_of_mem api he
    have hfollows := exchange_follows api e.update s
    rw [← hs] at hfollows
    exact hfollows.record?_eq_none_of_hasFailed (hfailed e he hkey)

end Reconciler

/-! ## Runs -/

theorem Exchange.exists_split_of_getLast?_ofKey {k : StreamKey} {es : List Exchange}
    {e : Exchange} (h : (ofKey k es).getLast? = some e) :
    ∃ before later, es = before ++ e :: later ∧ e.update.key = k ∧
      ∀ f ∈ later, f.update.key ≠ k := by
  obtain ⟨ys, hys⟩ := List.getLast?_eq_some_iff.mp h
  obtain ⟨as, bs, rfl, -, hlast⟩ := List.filter_eq_append_iff.mp hys
  obtain ⟨cs, ds, rfl, -, hkey, hnone⟩ := List.filter_eq_cons_iff.mp hlast
  refine ⟨as ++ cs, ds, (List.append_assoc _ _ _).symm, of_decide_eq_true hkey, ?_⟩
  intro f hf hfkey
  exact List.filter_eq_nil_iff.mp hnone f hf (decide_eq_true hfkey)

/-- What a service keeps of a stream after the exchanges of a run, by what its records are after
some exchanges and by what the store holds after all of them. -/
structure Durable (context : RunContext) (k : StreamKey) (records : List Exchange → StatusRecords)
    (es : List Exchange) (store : StatusStore) : Prop where
  single : ∀ q r, (records es).Has context k q → (records es).Has context k r → q = r
  silent : Exchange.ofKey k es = [] → ∀ r, ¬ (records es).Has context k r
  reached : ∀ e, (Exchange.ofKey k es).getLast? = some e → ¬ e.HasFailed →
    ∃ r s, (records es).Has context k r ∧ store.get? k = some s ∧ r.runState = s.runState
  left : ∀ before e later, es = before ++ e :: later → e.update.key = k → ¬ e.HasFailed →
    (∀ f ∈ later, f.update.key = k → f.HasFailed) →
    ∃ r, (records es).Has context k r ∧ (records (before ++ [e])).Has context k r ∧
      r.runState = e.update.runState
  unset : (∀ e ∈ es, e.update.key = k → e.HasFailed) → ∀ r, ¬ (records es).Has context k r

namespace Tracker

variable {σ ε : Type}

/-- The emitter takes the updates of a run, and nothing else. -/
theorem emitter_track (t : Tracker σ ε) (a : Arrival) (s : Tracking σ ε) :
    (t.track a s).2.emitter =
      (t.emitter.emitAll (t.news? a s.store s.flags).toList s.emitter).2 := by
  rw [track_eq, news?]
  cases (t.hear a.message s.flags).1.observation? with
  | none => rfl
  | some p =>
      rw [Option.bind_some]
      simp only [announce]
      cases updateOf? t.context a.instant
          (s.store.change (.ofDescriptor t.context.connectionId p.1) p.2) with
      | none => rfl
      | some u => rfl

theorem emitter_after (t : Tracker σ ε) (flags : σ) (emitter : ε) (as : List Arrival) :
    (t.after flags emitter as).emitter =
      (t.emitter.emitAll (t.updates flags emitter as) emitter).2 := by
  induction as using List.reverseRecOn with
  | nil => rfl
  | append_singleton as a ih =>
      rw [after_append_singleton, emitter_track, updates_append_singleton,
        Emitter.emitAll_append, ih]

theorem isOf_updates (t : Tracker σ ε) (flags : σ) (emitter : ε) (as : List Arrival) :
    ∀ u ∈ t.updates flags emitter as, Reconciler.IsOf t.context u := by
  induction as using List.reverseRecOn with
  | nil => exact List.forall_mem_nil _
  | append_singleton as a ih =>
      rw [updates_append_singleton]
      refine List.forall_mem_append.mpr ⟨ih, fun u hu => ?_⟩
      obtain ⟨p, -, hnews⟩ := Option.bind_eq_some_iff.mp (Option.mem_toList.mp hu)
      rw [updateOf?] at hnews
      split_ifs at hnews
      obtain rfl := Option.some.inj hnews
      exact ⟨rfl, rfl⟩

/-- The last update of a stream gives the run state that the store holds. -/
theorem runState_of_getLast?_ofKey (t : Tracker σ ε) (flags : σ) (emitter : ε)
    (as : List Arrival) {k : StreamKey} {es : List Exchange} {e : Exchange}
    (hes : es.map Exchange.update = t.updates flags emitter as)
    (h : (Exchange.ofKey k es).getLast? = some e) :
    ∃ s, (t.after flags emitter as).store.get? k = some s ∧ s.runState = e.update.runState := by
  refine (t.mirrors_updates flags emitter as).last k e.update ?_
  have hmap : (Exchange.ofKey k es).map Exchange.update = updatesOf k (es.map Exchange.update) := by
    rw [updatesOf, List.filter_map]
    rfl
  rw [← hes, ← hmap, List.getLast?_map, h, Option.map_some]

/-- The records of a faithful service mirror the store of a tracker that reports to it through a
reconciler, as far as requests did not fail. -/
theorem durable_after {α : Type} {api : StatusApi α} {view : α → StatusRecords}
    (hapi : api.Faithful view) (client : FlagClient σ) (context : RunContext) (flags : σ)
    (service : α) (hnew : Reconciler.HasNone context (view service)) (as : List Arrival)
    (k : StreamKey) :
    let t : Tracker σ (Reconciling α) := ⟨client, Reconciler.emitter api, context⟩
    let s := t.after flags ⟨.empty, service⟩ as
    let es := Reconciler.exchangesFrom api service (t.updates flags ⟨.empty, service⟩ as)
    let records := fun before : List Exchange =>
      view (Reconciler.after api service (before.map Exchange.update)).service
    records es = view s.emitter.service ∧ Durable context k records es s.store := by
  intro t s es records
  have hmap : es.map Exchange.update = t.updates flags ⟨.empty, service⟩ as :=
    Reconciler.map_update_exchangesFrom api service _
  have hrecords : records es =
      view (Reconciler.after api service (t.updates flags ⟨.empty, service⟩ as)).service :=
    congrArg (fun us => view (Reconciler.after api service us).service) hmap
  have hus := t.isOf_updates flags ⟨.empty, service⟩ as
  have hleft : ∀ before e later, es = before ++ e :: later → e.update.key = k → ¬ e.HasFailed →
      (∀ f ∈ later, f.update.key = k → f.HasFailed) →
      ∃ r, (records es).Has context k r ∧ (records (before ++ [e])).Has context k r ∧
        r.runState = e.update.runState := by
    rintro before e later hsplit rfl hdone hlater
    obtain ⟨r, hstate, hnow, hthen⟩ := Reconciler.has_of_split hapi hnew hus hsplit hdone hlater
    rw [hrecords]
    exact ⟨r, hnow, hthen, hstate⟩
  have hunset : (∀ e ∈ es, e.update.key = k → e.HasFailed) →
      ∀ r, ¬ (records es).Has context k r := by
    intro hfailed
    rw [hrecords]
    exact Reconciler.not_has_of_failed hapi hnew hus hfailed
  refine ⟨?_, ?_, ?_, ?_, hleft, hunset⟩
  · rw [hrecords, emitter_after]
    rfl
  · intro q r hq hr
    have hagree := Reconciler.agree_after hapi hnew hus
    rw [hrecords] at hq hr
    exact Option.some.inj (((hagree k q).mp hq).symm.trans ((hagree k r).mp hr))
  · intro hnil
    refine hunset fun e he hkey => ?_
    exact absurd (decide_eq_true hkey) (List.filter_eq_nil_iff.mp hnil e he)
  · intro e hlast hdone
    obtain ⟨before, later, hsplit, hkey, hnone⟩ := Exchange.exists_split_of_getLast?_ofKey hlast
    obtain ⟨r, hhas, -, hstate⟩ := hleft before e later hsplit hkey hdone fun f hf hfkey =>
      absurd hfkey (hnone f hf)
    obtain ⟨status, hget, hstatus⟩ :=
      t.runState_of_getLast?_ofKey flags ⟨.empty, service⟩ as hmap hlast
    exact ⟨r, status, hhas, hget, hstate.trans hstatus.symm⟩

/-- The first request fails, and the next update of the stream makes up for it. -/
theorem durable_after_heldBack :
    let t : Tracker Unit (Reconciling StatusLedger) :=
      ⟨unattended.client, Reconciler.emitter StatusLedger.api, default⟩
    let service : StatusLedger := ⟨.empty, [true]⟩
    let s := t.after () ⟨.empty, service⟩ (heldBack ⟨"users", none⟩)
    let k := StreamKey.ofDescriptor default ⟨"users", none⟩
    StatusLedger.api.Faithful StatusLedger.view ∧ Reconciler.HasNone default service.view ∧
      ∃ r status, s.emitter.service.view.Has default k r ∧ s.store.get? k = some status ∧
        r.runState = status.runState := by
  intro t service s k
  have hnew : Reconciler.HasNone default service.view := fun j r => nofun
  obtain ⟨hview, hdurable⟩ := durable_after StatusLedger.api_faithful unattended.client default ()
    service hnew (heldBack ⟨"users", none⟩) k
  refine ⟨StatusLedger.api_faithful, hnew, ?_⟩
  rw [← hview]
  exact hdurable.reached _ rfl (by decide)

end Tracker

end SyncLedger
