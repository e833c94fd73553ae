import Mathlib.Data.List.Induction
import SyncLedger.Stream.Reconcile

/-!
# What the service is asked

A service may answer anything: with an error, or with a record that has nothing to do with
the request. The reconciler goes by the answers alone. An exchange is an update together
with the requests that were made because of it and their replies, as a service that keeps a
log of them has seen them. Which request an update needs depends on the last record that
the exchanges of its stream have brought, and the cache holds exactly these records.
-/

namespace SyncLedger

/-- What a service replies to a request. -/
abbrev StatusReply := Except StatusApiError StreamStatusRecord

/-- The same service with a log of the requests and of the replies, the latest ones last. -/
def StatusApi.logged {α : Type} (api : StatusApi α) :
    StatusApi (α × List (StatusCall × StatusReply)) where
  answer c s :=
    let result := api.answer c s.1
    (result.1, result.2, s.2 ++ [(c, result.1)])

/-- An update, with the requests that were made because of it and their replies. -/
structure Exchange where
  update : StreamStatusUpdate
  calls : List (StatusCall × StatusReply)

namespace Exchange

def recordOf? : StatusReply → Option StreamStatusRecord
  | .ok record => some record
  | .error _ => none

/-- The record that the last successful reply brought. -/
def record? (e : Exchange) : Option StreamStatusRecord :=
  (e.calls.filterMap fun c => recordOf? c.2).getLast?

def HasFailed (e : Exchange) : Prop := ∃ c ∈ e.calls, recordOf? c.2 = none

instance (e : Exchange) : Decidable e.HasFailed :=
  inferInstanceAs (Decidable (∃ c ∈ e.calls, recordOf? c.2 = none))

def ofKey (k : StreamKey) (es : List Exchange) : List Exchange :=
  es.filter fun e => e.update.key = k

/-- The last record that the exchanges of a stream have brought. -/
def lastRecord? (k : StreamKey) (es : List Exchange) : Option StreamStatusRecord :=
  ((ofKey k es).filterMap record?).getLast?

/-- What an exchange has to be after the last record of its stream, if there is one. -/
inductive Follows : Option StreamStatusRecord → Exchange → Prop where
  /-- Nothing is known of a record: one is created. -/
  | create (u : StreamStatusUpdate) (reply : StatusReply) :
      Follows none ⟨u, [(.create (.ofUpdate u), reply)]⟩
  /-- The record says what the update says: nothing is requested. -/
  | skip (record : StreamStatusRecord) (u : StreamStatusUpdate)
      (hstate : record.runState = u.runState) : Follows (some record) ⟨u, []⟩
  /-- The record says something else: it is changed. -/
  | update (record : StreamStatusRecord) (u : StreamStatusUpdate) (reply : StatusReply)
      (hstate : record.runState ≠ u.runState) :
      Follows (some record) ⟨u, [(.update record.id (.ofUpdate u), reply)]⟩

theorem ofKey_append (k : StreamKey) (es fs : List Exchange) :
    ofKey k (es ++ fs) = ofKey k es ++ ofKey k fs :=
  List.filter_append es fs

theorem lastRecord?_append (k : StreamKey) (es fs : List Exchange) :
    lastRecord? k (es ++ fs) = (lastRecord? k fs).or (lastRecord? k es) := by
  rw [lastRecord?, ofKey_append, List.filterMap_append, List.getLast?_append]
  rfl

theorem lastRecord?_singleton (k : StreamKey) (e : Exchange) :
    lastRecord? k [e] = if e.update.key = k then e.record? else none := by
  rw [lastRecord?, ofKey, List.filter_cons, List.filter_nil]
  by_cases hkey : e.update.key = k
  · rw [if_pos hkey, if_pos (decide_eq_true hkey), List.filterMap_cons, List.filterMap_nil]
    cases e.record? with
    | none => rfl
    | some record => rfl
  · rw [if_neg hkey, if_neg (by rwa [decide_eq_true_iff])]
    rfl

theorem lastRecord?_eq_none {k : StreamKey} {es : List Exchange}
    (h : ∀ e ∈ es, e.update.key = k → e.record? = none) : lastRecord? k es = none := by
  rw [lastRecord?, List.getLast?_eq_none_iff, List.filterMap_eq_nil_iff]
  intro e he
  obtain ⟨hmem, hkey⟩ := List.mem_filter.mp he
  exact h e hmem (of_decide_eq_true hkey)

theorem Follows.record?_eq_none_of_hasFailed {last : Option StreamStatusRecord} {e : Exchange}
    (h : Follows last e) (hfailed : e.HasFailed) : e.record? = none := by
  obtain ⟨c, hc, hnone⟩ := hfailed
  cases h with
  | skip => cases hc
  | create u reply | update record u reply =>
      obtain rfl := List.mem_singleton.mp hc
      simp [record?, hnone]

end Exchange

namespace Reconciler

variable {α : Type}

/-- What bringing a record up to date takes. -/
def exchange (api : StatusApi α) (u : StreamStatusUpdate) (s : Reconciling α) : Exchange :=
  ⟨u, (emit api.logged u ⟨s.cache, (s.service, [])⟩).2.service.2⟩

/-- What bringing records up to date takes, one update after another. -/
def exchanges (api : StatusApi α) : List StreamStatusUpdate → Reconciling α → List Exchange
  | [], _ => []
  | u :: us, s => exchange api u s :: exchanges api us (emit api u s).2

/-- What is kept after some updates; at first nothing was replied. -/
def after (api : StatusApi α) (service : α) (us : List StreamStatusUpdate) : Reconciling α :=
  ((emitter api).emitAll us ⟨.empty, service⟩).2

/-- The exchanges of some updates; at first nothing was replied. -/
def exchangesFrom (api : StatusApi α) (service : α) (us : List StreamStatusUpdate) :
    List Exchange :=
  exchanges api us ⟨.empty, service⟩

section Call

variable {cache : ResponseCache} {u : StreamStatusUpdate}

theorem call?_of_unknown (h : Table.get? cache u.key = none) :
    call? cache u = some (.create (.ofUpdate u)) := by
  simp only [call?, h]

theorem call?_of_stored {record : StreamStatusRecord} (h : Table.get? cache u.key = some record)
    (hstate : record.runState = u.runState) : call? cache u = none := by
  simp only [call?, h, if_pos hstate]

theorem call?_of_outdated {record : StreamStatusRecord}
    (h : Table.get? cache u.key = some record) (hstate : record.runState ≠ u.runState) :
    call? cache u = some (.update record.id (.ofUpdate u)) := by
  simp only [call?, h, if_neg hstate]

end Call

variable (api : StatusApi α)

section Exchange

variable {u : StreamStatusUpdate} {s : Reconciling α}

theorem emit_of_call?_eq_none (h : call? s.cache u = none) :
    exchange api u s = ⟨u, []⟩ ∧ (emit api u s).2 = s := by
  simp [exchange, emit, h]

theorem emit_of_call?_eq_some {call : StatusCall} (h : call? s.cache u = some call) :
    exchange api u s = ⟨u, [(call, (api.answer call s.service).1)]⟩ ∧
      (emit api u s).2 =
        ⟨remember s.cache u.key (api.answer call s.service).1, (api.answer call s.service).2⟩ := by
  simp [exchange, emit, h, StatusApi.logged]

end Exchange

theorem exchange_follows (u : StreamStatusUpdate) (s : Reconciling α) :
    (exchange api u s).Follows (Table.get? s.cache u.key) := by
  cases hget : Table.get? s.cache u.key with
  | none =>
      rw [(emit_of_call?_eq_some api (call?_of_unknown hget)).1]
      exact .create u _
  | some record =>
      by_cases hstate : record.runState = u.runState
      · rw [(emit_of_call?_eq_none api (call?_of_stored hget hstate)).1]
        exact .skip record u hstate
      · rw [(emit_of_call?_eq_some api (call?_of_outdated hget hstate)).1]
        exact .update record u _ hstate

theorem update_exchange (u : StreamStatusUpdate) (s : Reconciling α) :
    (exchange api u s).update = u := rfl

/-- The log of a service grows by the requests of the exchange, and nothing else depends on it. -/
theorem emit_logged (u : StreamStatusUpdate) (s : Reconciling α)
    (log : List (StatusCall × StatusReply)) :
    (emit api.logged u ⟨s.cache, (s.service, log)⟩).2 =
      ⟨(emit api u s).2.cache, ((emit api u s).2.service, log ++ (exchange api u s).calls)⟩ := by
  cases hcall : call? s.cache u with
  | none => simp [emit, exchange, hcall]
  | some call => simp [emit, exchange, hcall, StatusApi.logged]

/-- An exchange replaces the record of its stream by the one that it brings. -/
theorem get?_emit (u : StreamStatusUpdate) (s : Reconciling α) (k : StreamKey) :
    Table.get? (emit api u s).2.cache k =
      if u.key = k then (exchange api u s).record?.or (Table.get? s.cache k)
      else Table.get? s.cache k := by
  cases hcall : call? s.cache u with
  | none =>
      obtain ⟨hexchange, hemit⟩ := emit_of_call?_eq_none api hcall
      rw [hexchange, hemit]
      exact (ite_self _).symm
  | some call =>
      obtain ⟨hexchange, hemit⟩ := emit_of_call?_eq_some api hcall
      rw [hexchange, hemit]
      cases (api.answer call s.service).1 with
      | error e => exact (ite_self _).symm
      | ok record =>
          change Table.get? (Table.insert s.cache u.key record) k = _
          simp only [Table.get?_insert, eq_comm (a := k)]
          rfl

theorem cache_emit_of_hasFailed {u : StreamStatusUpdate} {s : Reconciling α}
    (h : (exchange api u s).HasFailed) : (emit api u s).2.cache = s.cache := by
  obtain ⟨c, hc, hnone⟩ := h
  cases hcall : call? s.cache u with
  | none => rw [(emit_of_call?_eq_none api hcall).2]
  | some call =>
      obtain ⟨hexchange, hemit⟩ := emit_of_call?_eq_some api hcall
      rw [hexchange] at hc
      obtain rfl := List.mem_singleton.mp hc
      rw [hemit]
      cases hreply : (api.answer call s.service).1 with
      | error e => rfl
      | ok record =>
          rw [hreply] at hnone
          cases hnone

end Reconciler

theorem Emitter.emitAll_append {ε : Type} (e : Emitter ε) (us vs : List StreamStatusUpdate)
    (s : ε) : (e.emitAll (us ++ vs) s).2 = (e.emitAll vs (e.emitAll us s).2).2 := by
  induction us generalizing s with
  | nil => rfl
  | cons u us ih =>
      rw [List.cons_append, emitAll, emitAll]
      exact ih (e.emit u s).2

namespace Reconciler

variable {α : Type} (api : StatusApi α)

theorem map_update_exchanges (us : List StreamStatusUpdate) (s : Reconciling α) :
    (exchanges api us s).map Exchange.update = us := by
  induction us generalizing s with
  | nil => rfl
  | cons u us ih => rw [exchanges, List.map_cons, ih, update_exchange]

/-- A service has logged the requests of the exchanges, and no others. -/
theorem emitAll_logged (us : List StreamStatusUpdate) (s : Reconciling α)
    (log : List (StatusCall × StatusReply)) :
    ((emitter api.logged).emitAll us ⟨s.cache, (s.service, log)⟩).2 =
      ⟨((emitter api).emitAll us s).2.cache, (((emitter api).emitAll us s).2.service,
        log ++ (exchanges api us s).flatMap Exchange.calls)⟩ := by
  induction us generalizing s log with
  | nil => simp [Emitter.emitAll, exchanges]
  | cons u us ih =>
      rw [Emitter.emitAll, Emitter.emitAll, exchanges, List.flatMap_cons, ← List.append_assoc]
      simp only [emitter, emit_logged]
      exact ih (emit api u s).2 (log ++ (exchange api u s).calls)

theorem exchanges_append (us vs : List StreamStatusUpdate) (s : Reconciling α) :
    exchanges api (us ++ vs) s =
      exchanges api us s ++ exchanges api vs ((emitter api).emitAll us s).2 := by
  induction us generalizing s with
  | nil => rfl
  | cons u us ih =>
      rw [List.cons_append, exchanges, exchanges, List.cons_append, ih (emit api u s).2]
      rfl

theorem eq_exchange_of_mem {us : List StreamStatusUpdate} {s : Reconciling α} {e : Exchange}
    (h : e ∈ exchanges api us s) : ∃ s', e = exchange api e.update s' := by
  induction us generalizing s with
  | nil => cases h
  | cons u us ih =>
      rcases List.mem_cons.mp h with rfl | h
      · exact ⟨s, rfl⟩
      · exact ih h

variable (service : α)

theorem after_append_singleton (us : List StreamStatusUpdate) (u : StreamStatusUpdate) :
    after api service (us ++ [u]) = (emit api u (after api service us)).2 := by
  rw [after, Emitter.emitAll_append]
  rfl

theorem exchangesFrom_append_singleton (us : List StreamStatusUpdate) (u : StreamStatusUpdate) :
    exchangesFrom api service (us ++ [u]) =
      exchangesFrom api service us ++ [exchange api u (after api service us)] :=
  exchanges_append api us [u] _

theorem map_update_exchangesFrom (us : List StreamStatusUpdate) :
    (exchangesFrom api service us).map Exchange.update = us :=
  map_update_exchanges api us _

/-- The cache holds for every stream the last record that its exchanges have brought. -/
theorem get?_after (us : List StreamStatusUpdate) (k : StreamKey) :
    Table.get? (after api service us).cache k =
      Exchange.lastRecord? k (exchangesFrom api service us) := by
  induction us using List.reverseRecOn with
  | nil => rfl
  | append_singleton us u ih =>
      rw [after_append_singleton, exchangesFrom_append_singleton, get?_emit,
        Exchange.lastRecord?_append, Exchange.lastRecord?_singleton, update_exchange, ih]
      split_ifs
      · rfl
      · rfl

/-- What the exchanges of some updates say of the requests and of the cache. -/
structure Accounted (us : List StreamStatusUpdate) : Prop where
  updates : (exchangesFrom api service us).map Exchange.update = us
  log : ((emitter api.logged).emitAll us ⟨.empty, (service, [])⟩).2.service.2 =
    (exchangesFrom api service us).flatMap Exchange.calls
  follows : ∀ before e, before ++ [e] <+: exchangesFrom api service us →
    e.Follows (Exchange.lastRecord? e.update.key before)
  cache : ∀ k, Table.get? (after api service us).cache k =
    Exchange.lastRecord? k (exchangesFrom api service us)
  failed : ∀ u, (exchange api u (after api service us)).HasFailed →
    (after api service (us ++ [u])).cache = (after api service us).cache
  others : ∀ u k, u.key ≠ k → Table.get? (after api service (us ++ [u])).cache k =
    Table.get? (after api service us).cache k

/-- An exchange is that of its update after the updates before it. -/
theorem eq_exchange_of_begins (us : List StreamStatusUpdate) {before : List Exchange}
    {e : Exchange} (h : before ++ [e] <+: exchangesFrom api service us) :
    exchangesFrom api service (before.map Exchange.update) = before ∧
      exchange api e.update (after api service (before.map Exchange.update)) = e := by
  induction us using List.reverseRecOn with
  | nil => simp [exchangesFrom, exchanges] at h
  | append_singleton us u ih =>
      rw [exchangesFrom_append_singleton] at h
      rcases List.prefix_concat_iff.mp h with heq | hbegin
      · obtain ⟨rfl, hlast⟩ := List.append_inj' heq rfl
        obtain rfl := List.head_eq_of_cons_eq hlast
        rw [map_update_exchangesFrom]
        exact ⟨rfl, rfl⟩
      · exact ih hbegin

/-- Whatever a service replies, every request and the cache are accounted for by the last
record that the exchanges of a stream have brought. -/
theorem accounted (us : List StreamStatusUpdate) : Accounted api service us where
  updates := map_update_exchangesFrom api service us
  log := by
    rw [emitAll_logged api us ⟨.empty, service⟩ []]
    rfl
  follows before e h := by
    obtain ⟨hbefore, he⟩ := eq_exchange_of_begins api service us h
    have hfollows := exchange_follows api e.update (after api service (before.map Exchange.update))
    rwa [get?_after, hbefore, he] at hfollows
  cache := get?_after api service us
  failed u h := by
    rw [after_append_singleton]
    exact cache_emit_of_hasFailed api h
  others u k h := by
    rw [after_append_singleton, get?_emit, if_neg h]

/-- The same news of a stream, four times over. -/
def repeated : List StreamStatusUpdate :=
  List.replicate 4 ⟨default, .running, none, default, default⟩

/-- A service that fails at first, and then answers with a record that nobody asked for. -/
def unreliable : StatusScript := ⟨[.fail "unavailable", .reply ⟨.ofNat 7, .complete⟩], 0⟩

/-- The record is created until that succeeds, then changed under the identifier that was
replied, and then left alone. -/
theorem accounted_repeated :
    let request := StreamStatusRequest.ofUpdate ⟨default, .running, none, default, default⟩
    (((emitter StatusScript.api.logged).emitAll repeated
        ⟨.empty, (unreliable, [])⟩).2.service.2.map Prod.fst =
      [.create request, .create request, .update (.ofNat 7) request]) ∧
      Table.get? (after StatusScript.api unreliable repeated).cache default =
        some ⟨.ofNat 7, .running⟩ := by
  intro request
  have h := accounted StatusScript.api unreliable repeated
  rw [h.log, h.cache]
  decide

end Reconciler

end SyncLedger
