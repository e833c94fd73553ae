import Mathlib.Data.List.DropRight
import SyncLedger.Flag.Cache

/-!
# What a cache remembers

The past of a cache is the list of the evaluations that were made through it and of the
clearings in between. An evaluation is recorded with the answers that the client behind
the cache gave because of it, as a client that keeps a list of its answers has seen them.
The past alone tells which evaluations reach the client, and what comes of the others:
`Coherent` ties the remembered values to it, and every use of the cache keeps them so.
The client may become another one at any time.
-/

namespace SyncLedger

/-- What a client answered when it was asked for a flag. -/
structure FlagAnswer where
  flag : Flag
  context : FlagContext
  result : Except FlagEvaluationError Bool

/-- The value that an answer gives for a flag in a context. -/
def FlagAnswer.valueFor? (flag : Flag) (context : FlagContext) (a : FlagAnswer) : Option Bool :=
  if a.flag = flag ∧ a.context = context then a.result.toOption else none

theorem FlagAnswer.valueFor?_eq_some_iff {flag : Flag} {context : FlagContext} {a : FlagAnswer}
    {value : Bool} : a.valueFor? flag context = some value ↔ a = ⟨flag, context, .ok value⟩ := by
  obtain ⟨f, c, result⟩ := a
  rw [valueFor?]
  cases result with
  | error e => simp [Except.toOption]
  | ok v => simp [Except.toOption, and_assoc]

/-- The same client with a list of its answers, the latest one last. -/
def FlagClient.answering {σ : Type} (client : FlagClient σ) :
    FlagClient (σ × List FlagAnswer) where
  evaluate flag context s :=
    let answer := client.evaluate flag context s.1
    (answer.1, answer.2, s.2 ++ [⟨flag, context, answer.1⟩])

namespace FlagCache

/-- What is done with a client behind a cache, or happens to it. -/
inductive Use (σ : Type) where
  | evaluate (flag : Flag) (context : FlagContext)
  | evaluateOrDefault (flag : Flag) (context : FlagContext)
  | clear
  /-- The client may answer differently from now on. -/
  | change (state : σ)

/-- What has happened at a cache. -/
inductive Event where
  /-- An answer was given, after the client behind the cache had given some answers. -/
  | evaluated (answer : FlagAnswer) (behind : List FlagAnswer)
  | cleared

namespace Event

def isEvaluation : Event → Bool
  | .evaluated _ _ => true
  | .cleared => false

def behind : Event → List FlagAnswer
  | .evaluated _ behind => behind
  | .cleared => []

/-- The evaluations since the cache was last cleared, or since the beginning. -/
def sinceCleared (es : List Event) : List Event := es.rtakeWhile isEvaluation

/-- One of the evaluations of a flag in a context has succeeded. -/
def HasSucceeded (flag : Flag) (context : FlagContext) (es : List Event) : Prop :=
  ∃ value behind, .evaluated ⟨flag, context, .ok value⟩ behind ∈ es

/-- The last value that the client behind the cache gave for a flag in a context. -/
def lastValue? (flag : Flag) (context : FlagContext) (es : List Event) : Option Bool :=
  ((es.flatMap behind).filterMap (FlagAnswer.valueFor? flag context)).getLast?

variable {flag : Flag} {context : FlagContext}

theorem sinceCleared_append_evaluated (es : List Event) (a : FlagAnswer) (bs : List FlagAnswer) :
    sinceCleared (es ++ [.evaluated a bs]) = sinceCleared es ++ [.evaluated a bs] :=
  List.rtakeWhile_concat_pos _ _ _ rfl

theorem sinceCleared_append_cleared (es : List Event) : sinceCleared (es ++ [.cleared]) = [] :=
  List.rtakeWhile_concat_neg _ _ _ Bool.false_ne_true

theorem hasSucceeded_append_evaluated {es : List Event} {a : FlagAnswer} {bs : List FlagAnswer} :
    HasSucceeded flag context (es ++ [.evaluated a bs]) ↔
      HasSucceeded flag context es ∨ ∃ value, a = ⟨flag, context, .ok value⟩ := by
  simp only [HasSucceeded, List.mem_append, List.mem_singleton, Event.evaluated.injEq]
  constructor
  · rintro ⟨value, cs, h | ⟨h, -⟩⟩
    · exact .inl ⟨value, cs, h⟩
    · exact .inr ⟨value, h.symm⟩
  · rintro (⟨value, cs, h⟩ | ⟨value, h⟩)
    · exact ⟨value, cs, .inl h⟩
    · exact ⟨value, bs, .inr ⟨h.symm, rfl⟩⟩

theorem lastValue?_append (es fs : List Event) :
    lastValue? flag context (es ++ fs) =
      (lastValue? flag context fs).or (lastValue? flag context es) := by
  rw [lastValue?, List.flatMap_append, List.filterMap_append, List.getLast?_append]
  rfl

theorem lastValue?_singleton_asked (a b : FlagAnswer) :
    lastValue? flag context [.evaluated a [b]] = b.valueFor? flag context := by
  cases h : b.valueFor? flag context with
  | none => simp [lastValue?, behind, h]
  | some value => simp [lastValue?, behind, h]

end Event

open Event

variable {σ : Type} (inner : FlagClient σ)

/-- What the client behind a cache answers because of an evaluation. -/
def asked (flag : Flag) (context : FlagContext) (s : FlagCache × σ) : List FlagAnswer :=
  ((inFrontOf inner.answering).evaluate flag context (s.1, s.2, [])).2.2.2

/-- An evaluation, with what it gave. -/
def evaluation (flag : Flag) (context : FlagContext) (s : FlagCache × σ) : Event :=
  .evaluated ⟨flag, context, ((inFrontOf inner).evaluate flag context s).1⟩
    (asked inner flag context s)

/-- What a use leaves behind. -/
def perform (s : FlagCache × σ) : Use σ → FlagCache × σ
  | .evaluate flag context => ((inFrontOf inner).evaluate flag context s).2
  | .evaluateOrDefault flag context => ((inFrontOf inner).evaluateOrDefault flag context s).2.2
  | .clear => (clear s.1, s.2)
  | .change state => (s.1, state)

/-- What happens in the course of a use. -/
def events (s : FlagCache × σ) : Use σ → List Event
  | .evaluate flag context => [evaluation inner flag context s]
  | .evaluateOrDefault flag context => [evaluation inner flag context s]
  | .clear => [.cleared]
  | .change _ => []

/-- The cache and its client after some uses; at first nothing is remembered. -/
def after (state : σ) (us : List (Use σ)) : FlagCache × σ :=
  us.foldl (perform inner) (Table.empty, state)

/-- What happens in the course of some uses. -/
def history (s : FlagCache × σ) : List (Use σ) → List Event
  | [] => []
  | u :: us => events inner s u ++ history (perform inner s u) us

/-- What has happened after some uses; at first nothing is remembered. -/
def past (state : σ) (us : List (Use σ)) : List Event := history inner (Table.empty, state) us

theorem after_append_singleton (state : σ) (us : List (Use σ)) (u : Use σ) :
    after inner state (us ++ [u]) = perform inner (after inner state us) u :=
  List.foldl_concat _ _ _ _

theorem history_append (s : FlagCache × σ) (us vs : List (Use σ)) :
    history inner s (us ++ vs) =
      history inner s us ++ history inner (us.foldl (perform inner) s) vs := by
  induction us generalizing s with
  | nil => rfl
  | cons u us ih => rw [List.cons_append, history, history, ih, List.append_assoc, List.foldl_cons]

theorem past_append_singleton (state : σ) (us : List (Use σ)) (u : Use σ) :
    past inner state (us ++ [u]) =
      past inner state us ++ events inner (after inner state us) u := by
  rw [past, history_append, history, history, List.append_nil]
  rfl

section Evaluate

variable {flag : Flag} {context : FlagContext} {s : FlagCache × σ}

theorem evaluate_of_known {value : Bool} (h : Table.get? s.1 (flag, context) = some value) :
    (inFrontOf inner).evaluate flag context s = (.ok value, s) ∧
      asked inner flag context s = [] := by
  simp [inFrontOf, asked, h]

theorem evaluate_of_unknown (h : Table.get? s.1 (flag, context) = none) :
    (inFrontOf inner).evaluate flag context s =
        ((inner.evaluate flag context s.2).1,
          remember s.1 flag context (inner.evaluate flag context s.2).1,
          (inner.evaluate flag context s.2).2) ∧
      asked inner flag context s = [⟨flag, context, (inner.evaluate flag context s.2).1⟩] := by
  simp [inFrontOf, asked, h, FlagClient.answering]

/-- A default that stands in for an error is not remembered: the client is asked again. -/
theorem evaluateOrDefault_of_error {e : FlagEvaluationError}
    (h : ((inFrontOf inner).evaluate flag context s).1 = .error e) :
    ((inFrontOf inner).evaluateOrDefault flag context s).1 = flag.default ∧
      ((inFrontOf inner).evaluateOrDefault flag context s).2.2.1 = s.1 ∧
      asked inner flag context ((inFrontOf inner).evaluateOrDefault flag context s).2.2 ≠ [] := by
  cases hget : Table.get? s.1 (flag, context) with
  | some value =>
      rw [(evaluate_of_known inner hget).1] at h
      cases h
  | none =>
      have heval := (evaluate_of_unknown inner hget).1
      rw [heval] at h
      have hcache : ((inFrontOf inner).evaluateOrDefault flag context s).2.2.1 = s.1 := by
        rw [FlagClient.evaluateOrDefault, heval, h]
        rfl
      refine ⟨?_, hcache, ?_⟩
      · rw [FlagClient.evaluateOrDefault, heval, h]
        rfl
      · rw [(evaluate_of_unknown inner (hcache ▸ hget)).2]
        exact List.cons_ne_nil _ _

theorem evaluateOrDefault_of_ok {value : Bool}
    (h : ((inFrontOf inner).evaluate flag context s).1 = .ok value) :
    ((inFrontOf inner).evaluateOrDefault flag context s).1 = value := by
  rw [FlagClient.evaluateOrDefault, h]
  rfl

end Evaluate

theorem get?_remember (cache : FlagCache) (a : FlagAnswer) (flag : Flag) (context : FlagContext) :
    Table.get? (remember cache a.flag a.context a.result) (flag, context) =
      (a.valueFor? flag context).or (Table.get? cache (flag, context)) := by
  obtain ⟨f, c, result⟩ := a
  cases result with
  | error e => simp [remember, FlagAnswer.valueFor?, Except.toOption]
  | ok value =>
      rw [remember, Table.get?_insert]
      by_cases hsame : f = flag ∧ c = context
      · simp [FlagAnswer.valueFor?, hsame, Except.toOption]
      · have hne : (flag, context) ≠ (f, c) := fun h =>
          hsame ⟨(Prod.ext_iff.mp h).1.symm, (Prod.ext_iff.mp h).2.symm⟩
        simp [FlagAnswer.valueFor?, hsame, hne]

/-- A cache remembers the values that were given since it was last cleared. -/
structure Coherent (cache : FlagCache) (es : List Event) : Prop where
  known : ∀ flag context value, Table.get? cache (flag, context) = some value →
    HasSucceeded flag context (sinceCleared es) ∧ lastValue? flag context es = some value
  unknown : ∀ flag context, Table.get? cache (flag, context) = none →
    ¬ HasSucceeded flag context (sinceCleared es)

theorem coherent_empty (es : List Event) (h : sinceCleared es = []) :
    Coherent Table.empty es where
  known flag context value hget := by
    rw [Table.get?_empty] at hget
    cases hget
  unknown flag context _ := by
    rw [h]
    rintro ⟨value, behind, hmem⟩
    cases hmem

section Coherent

variable {cache : FlagCache} {es : List Event}

/-- An answer from the cache tells nothing new. -/
theorem Coherent.recall (h : Coherent cache es) {flag : Flag} {context : FlagContext}
    {value : Bool} (hget : Table.get? cache (flag, context) = some value) :
    Coherent cache (es ++ [.evaluated ⟨flag, context, .ok value⟩ []]) where
  known f c v hv := by
    obtain ⟨hsucceeded, hlast⟩ := h.known f c v hv
    rw [sinceCleared_append_evaluated, hasSucceeded_append_evaluated, lastValue?_append, hlast]
    exact ⟨.inl hsucceeded, rfl⟩
  unknown f c hnone := by
    rw [sinceCleared_append_evaluated, hasSucceeded_append_evaluated]
    rintro (hsucceeded | ⟨v, hsame⟩)
    · exact h.unknown f c hnone hsucceeded
    · obtain ⟨rfl, rfl, -⟩ := FlagAnswer.mk.inj hsame
      rw [hget] at hnone
      cases hnone

/-- An answer of the client is remembered if it is a value. -/
theorem Coherent.remember (h : Coherent cache es) (a : FlagAnswer) :
    Coherent (remember cache a.flag a.context a.result) (es ++ [.evaluated a [a]]) where
  known f c v hv := by
    rw [sinceCleared_append_evaluated, hasSucceeded_append_evaluated, lastValue?_append,
      lastValue?_singleton_asked]
    rw [get?_remember] at hv
    cases hvalue : a.valueFor? f c with
    | none =>
        rw [hvalue, Option.none_or] at hv
        obtain ⟨hsucceeded, hlast⟩ := h.known f c v hv
        exact ⟨.inl hsucceeded, hlast⟩
    | some w =>
        rw [hvalue, Option.some_or] at hv
        exact ⟨.inr ⟨w, FlagAnswer.valueFor?_eq_some_iff.mp hvalue⟩, hv⟩
  unknown f c hnone := by
    rw [sinceCleared_append_evaluated, hasSucceeded_append_evaluated]
    rw [get?_remember, Option.or_eq_none_iff] at hnone
    rintro (hsucceeded | ⟨v, hsame⟩)
    · exact h.unknown f c hnone.2 hsucceeded
    · rw [FlagAnswer.valueFor?_eq_some_iff.mpr hsame] at hnone
      cases hnone.1

theorem Coherent.evaluation {s : FlagCache × σ} (h : Coherent s.1 es) (flag : Flag)
    (context : FlagContext) :
    Coherent ((inFrontOf inner).evaluate flag context s).2.1
      (es ++ [evaluation inner flag context s]) := by
  cases hget : Table.get? s.1 (flag, context) with
  | some value =>
      obtain ⟨heval, hasked⟩ := evaluate_of_known inner hget
      rw [FlagCache.evaluation, heval, hasked]
      exact h.recall hget
  | none =>
      obtain ⟨heval, hasked⟩ := evaluate_of_unknown inner hget
      rw [FlagCache.evaluation, heval, hasked]
      exact h.remember ⟨flag, context, (inner.evaluate flag context s.2).1⟩

theorem Coherent.perform {s : FlagCache × σ} (h : Coherent s.1 es) (u : Use σ) :
    Coherent (perform inner s u).1 (es ++ events inner s u) := by
  cases u with
  | evaluate flag context => exact h.evaluation inner flag context
  | evaluateOrDefault flag context => exact h.evaluation inner flag context
  | clear => exact coherent_empty _ (sinceCleared_append_cleared es)
  | change state =>
      rw [events, List.append_nil]
      exact h

end Coherent

theorem coherent_after (state : σ) (us : List (Use σ)) :
    Coherent (after inner state us).1 (past inner state us) := by
  induction us using List.reverseRecOn with
  | nil => exact coherent_empty [] rfl
  | append_singleton us u ih =>
      rw [after_append_singleton, past_append_singleton]
      exact ih.perform inner u

/-- An evaluation reaches the client behind the cache exactly if none of the same flag in the
same context has succeeded since the cache was last cleared. Then the client's own answer is
given, and else the value that the client gave last. A default that stands in for an error
leaves the cache as it was. -/
theorem evaluate_after (state : σ) (us : List (Use σ)) (flag : Flag) (context : FlagContext) :
    let here := after inner state us
    let given := (inFrontOf inner).evaluate flag context here
    let orDefault := (inFrontOf inner).evaluateOrDefault flag context here
    let own := (inner.evaluate flag context here.2).1
    (asked inner flag context here ≠ [] ↔
        ¬ HasSucceeded flag context (sinceCleared (past inner state us))) ∧
      (asked inner flag context here = [] →
        ∃ value, lastValue? flag context (past inner state us) = some value ∧
          given.1 = .ok value) ∧
      (asked inner flag context here ≠ [] →
        asked inner flag context here = [⟨flag, context, own⟩] ∧ given.1 = own) ∧
      (∀ value, given.1 = .ok value → orDefault.1 = value) ∧
      ∀ e, given.1 = .error e → orDefault.1 = flag.default ∧ orDefault.2.2.1 = here.1 ∧
        asked inner flag context orDefault.2.2 ≠ [] := by
  intro here given orDefault own
  have hcoherent := coherent_after inner state us
  have hok : ∀ value, given.1 = .ok value → orDefault.1 = value := fun _ h =>
    evaluateOrDefault_of_ok inner h
  have herror : ∀ e, given.1 = .error e → orDefault.1 = flag.default ∧
      orDefault.2.2.1 = here.1 ∧ asked inner flag context orDefault.2.2 ≠ [] := fun _ h =>
    evaluateOrDefault_of_error inner h
  cases hget : Table.get? here.1 (flag, context) with
  | some value =>
      obtain ⟨heval, hasked⟩ := evaluate_of_known inner hget
      obtain ⟨hsucceeded, hlast⟩ := hcoherent.known flag context value hget
      have hgiven : given.1 = .ok value := congrArg Prod.fst heval
      refine ⟨?_, fun _ => ⟨value, hlast, hgiven⟩, fun h => absurd hasked h, hok, herror⟩
      exact iff_of_false (fun h => h hasked) (not_not_intro hsucceeded)
  | none =>
      obtain ⟨heval, hasked⟩ := evaluate_of_unknown inner hget
      have hgiven : given.1 = own := congrArg Prod.fst heval
      have hreached : asked inner flag context here ≠ [] := by
        rw [hasked]
        exact List.cons_ne_nil _ _
      refine ⟨?_, fun h => absurd h hreached, fun _ => ⟨hasked, hgiven⟩, hok, herror⟩
      exact iff_of_true hreached (hcoherent.unknown flag context hget)

end FlagCache

end SyncLedger
