import Mathlib.Data.List.Induction
import SyncLedger.Job.History
import SyncLedger.Proofs.Job.Persistence
import SyncLedger.Proofs.Time.Order

/-!
# Which job is the one before

The job before another one is found by a search for the identifier, a filter by time and a
latest element. `IsFirstNamed`, `IsJustBefore` and `IsLastOfItsTime` say what it is without any
of them, for lists in which identifiers and times may repeat. A job and its position are looked
for together; the job alone is the same without the position. Where neither identifiers nor
times repeat nothing depends on the order of the list.
-/

namespace SyncLedger

namespace Job

section Latest

variable {α β : Type} {created : α → DateTime} {xs : List α} {a b : α}

theorem later_of_lt (h : created b < created a) : later created a b = a :=
  if_pos (DateTime.before_iff_lt.mpr h)

theorem later_of_le (h : created a ≤ created b) : later created a b = b :=
  if_neg fun hbefore => absurd (DateTime.before_iff_lt.mp hbefore) (not_lt_of_ge h)

theorem latest?_eq_none_iff : latest? created xs = none ↔ xs = [] := by
  cases xs <;> simp [latest?]

theorem latest?_append_singleton (xs : List α) (a : α) :
    latest? created (xs ++ [a]) =
      some ((latest? created xs).elim a fun b => later created b a) := by
  cases xs with
  | nil => rfl
  | cons x xs => simp [latest?]

/-- The last of the latest things: nothing before it is later and all that follows is earlier. -/
def IsLatest (created : α → DateTime) (xs : List α) (a : α) : Prop :=
  ∃ before after, xs = before ++ a :: after ∧
    (∀ b ∈ before, created b ≤ created a) ∧ ∀ b ∈ after, created b < created a

theorem IsLatest.mem (h : IsLatest created xs a) : a ∈ xs := by
  obtain ⟨before, after, rfl, -, -⟩ := h
  simp

theorem IsLatest.le (h : IsLatest created xs a) (hb : b ∈ xs) : created b ≤ created a := by
  obtain ⟨before, after, rfl, hbefore, hafter⟩ := h
  rcases List.mem_append.mp hb with hb | hb
  · exact hbefore b hb
  · rcases List.mem_cons.mp hb with rfl | hb
    · exact le_rfl
    · exact (hafter b hb).le

/-- What is as late as the last of the latest things comes before it. -/
theorem IsLatest.eq_or_precedes {precedes : α → α → Prop} (h : IsLatest created xs a)
    (hxs : xs.Pairwise precedes) (hb : b ∈ xs) (heq : created b = created a) :
    b = a ∨ precedes b a := by
  obtain ⟨before, after, rfl, -, hafter⟩ := h
  rcases List.mem_append.mp hb with hb | hb
  · exact .inr ((List.pairwise_append.mp hxs).2.2 b hb a List.mem_cons_self)
  · rcases List.mem_cons.mp hb with rfl | hb
    · exact .inl rfl
    · exact absurd heq (hafter b hb).ne

theorem IsLatest.append_of_lt (h : IsLatest created xs a) (hlt : created b < created a) :
    IsLatest created (xs ++ [b]) a := by
  obtain ⟨before, after, rfl, hbefore, hafter⟩ := h
  refine ⟨before, after ++ [b], by simp, hbefore, fun c hc => ?_⟩
  rcases List.mem_append.mp hc with hc | hc
  · exact hafter c hc
  · rw [List.mem_singleton.mp hc]
    exact hlt

theorem IsLatest.append_of_le (h : IsLatest created xs a) (hle : created a ≤ created b) :
    IsLatest created (xs ++ [b]) b :=
  ⟨xs, [], rfl, fun _ hc => (h.le hc).trans hle, by simp⟩

theorem isLatest_of_latest? (h : latest? created xs = some a) : IsLatest created xs a := by
  induction xs using List.reverseRecOn generalizing a with
  | nil => cases h
  | append_singleton xs x ih =>
      rw [latest?_append_singleton] at h
      obtain rfl := Option.some.inj h
      cases hlatest : latest? created xs with
      | none =>
          obtain rfl := latest?_eq_none_iff.mp hlatest
          exact ⟨[], [], rfl, by simp, by simp⟩
      | some b =>
          rcases lt_or_ge (created x) (created b) with hlt | hle
          · rw [Option.elim_some, later_of_lt hlt]
            exact (ih hlatest).append_of_lt hlt
          · rw [Option.elim_some, later_of_le hle]
            exact (ih hlatest).append_of_le hle

theorem latest?_map (f : β → α) (ys : List β) :
    latest? created (ys.map f) = (latest? (fun y => created (f y)) ys).map f := by
  induction ys using List.reverseRecOn with
  | nil => rfl
  | append_singleton ys y ih =>
      rw [List.map_append, List.map_singleton, latest?_append_singleton, latest?_append_singleton,
        ih]
      cases latest? (fun y => created (f y)) ys with
      | none => rfl
      | some z => simp [later, apply_ite f]

variable {instant : DateTime}

theorem mem_filter_before :
    a ∈ xs.filter (fun a => (created a).before instant) ↔ a ∈ xs ∧ created a < instant := by
  rw [List.mem_filter, DateTime.before_iff_lt]

theorem latestBefore?_eq_none_iff :
    latestBefore? created instant xs = none ↔ ∀ a ∈ xs, ¬ created a < instant := by
  rw [latestBefore?, latest?_eq_none_iff, List.filter_eq_nil_iff]
  simp only [DateTime.before_iff_lt]

theorem latestBefore?_map (f : β → α) (ys : List β) :
    latestBefore? created instant (ys.map f) =
      (latestBefore? (fun y => created (f y)) instant ys).map f := by
  rw [latestBefore?, List.filter_map, latest?_map]
  rfl

end Latest

variable {jobs others : List Job} {id : JobId} {instant : DateTime} {j t : Job} {i : Nat}

/-- The first job with an identifier. -/
def IsFirstNamed (jobs : List Job) (id : JobId) (t : Job) : Prop :=
  t.id = id ∧ ∃ before after, jobs = before ++ t :: after ∧ ∀ j ∈ before, j.id ≠ id

/-- A job that was created before an instant, with none created in between. -/
structure IsJustBefore (jobs : List Job) (instant : DateTime) (j : Job) : Prop where
  mem : j ∈ jobs
  earlier : j.createdAt < instant
  none_between : ∀ k ∈ jobs, ¬ (j.createdAt < k.createdAt ∧ k.createdAt < instant)

/-- At a position there is a job, and all jobs that follow were created at other times. -/
def IsLastOfItsTime (jobs : List Job) (j : Job) (i : Nat) : Prop :=
  jobs[i]? = some j ∧ ∀ m k, i < m → jobs[m]? = some k → k.createdAt ≠ j.createdAt

theorem find?_eq_some_iff : find? jobs id = some t ↔ IsFirstNamed jobs id t := by
  rw [find?, List.find?_eq_some_iff_append]
  simp [IsFirstNamed]

theorem find?_eq_none_iff : find? jobs id = none ↔ ∀ j ∈ jobs, j.id ≠ id := by
  simp [find?]

theorem IsJustBefore.createdAt_eq {k : Job} (hj : IsJustBefore jobs instant j)
    (hk : IsJustBefore jobs instant k) : j.createdAt = k.createdAt := by
  apply le_antisymm
  · exact not_lt.mp fun h => hk.none_between j hj.mem ⟨h, hj.earlier⟩
  · exact not_lt.mp fun h => hj.none_between k hk.mem ⟨h, hk.earlier⟩

theorem IsLastOfItsTime.unique {k : Job} {m : Nat} (hj : IsLastOfItsTime jobs j i)
    (hk : IsLastOfItsTime jobs k m) (h : j.createdAt = k.createdAt) : (j, i) = (k, m) := by
  rcases lt_trichotomy i m with hlt | rfl | hlt
  · exact absurd h.symm (hj.2 m k hlt hk.1)
  · rw [Option.some.inj (hj.1.symm.trans hk.1)]
  · exact absurd h (hk.2 i j hlt hj.1)

/-- The positions in a list grow. -/
theorem pairwise_zipIdx (jobs : List Job) : jobs.zipIdx.Pairwise fun p q => p.2 < q.2 := by
  rw [← List.pairwise_map, List.zipIdx_map_snd]
  exact List.pairwise_lt_range'

theorem just_before_of_latestBefore?
    (h : latestBefore? (fun p : Job × Nat => p.1.createdAt) instant jobs.zipIdx = some (j, i)) :
    IsJustBefore jobs instant j ∧ IsLastOfItsTime jobs j i := by
  have hlatest := isLatest_of_latest? h
  have hordered := (pairwise_zipIdx jobs).filter fun p => p.1.createdAt.before instant
  have hmem (k : Job) (m : Nat) :
      (k, m) ∈ jobs.zipIdx.filter (fun p => p.1.createdAt.before instant) ↔
        jobs[m]? = some k ∧ k.createdAt < instant := by
    rw [mem_filter_before, List.mk_mem_zipIdx_iff_getElem?]
  obtain ⟨hposition, hearlier⟩ := (hmem j i).mp hlatest.mem
  refine ⟨⟨List.mem_of_getElem? hposition, hearlier, ?_⟩, hposition, ?_⟩
  · rintro k hk ⟨hlater, hlt⟩
    obtain ⟨m, hm⟩ := List.getElem?_of_mem hk
    exact not_lt_of_ge (hlatest.le ((hmem k m).mpr ⟨hm, hlt⟩)) hlater
  · intro m k him hm heq
    have hk := (hmem k m).mpr ⟨hm, heq ▸ hearlier⟩
    rcases hlatest.eq_or_precedes hordered hk heq with hsame | hlt
    · cases hsame
      exact lt_irrefl _ him
    · exact lt_asymm him hlt

theorem map_fst_previousAt? (jobs : List Job) (id : JobId) :
    (previousAt? jobs id).map Prod.fst = previous? jobs id := by
  rw [previousAt?, previous?, Option.map_bind]
  congr 1
  funext target
  conv_rhs => rw [← List.zipIdx_map_fst 0 jobs, latestBefore?_map]
  rfl

theorem previous?_eq_none_iff :
    previous? jobs id = none ↔ (∀ j ∈ jobs, j.id ≠ id) ∨
      ∃ t, IsFirstNamed jobs id t ∧ ∀ j ∈ jobs, ¬ j.createdAt < t.createdAt := by
  rw [previous?]
  cases hfound : find? jobs id with
  | none => exact iff_of_true rfl (.inl (find?_eq_none_iff.mp hfound))
  | some t =>
      have hfirst := find?_eq_some_iff.mp hfound
      rw [Option.bind_some, latestBefore?_eq_none_iff]
      constructor
      · exact fun h => .inr ⟨t, hfirst, h⟩
      · rintro (hnone | ⟨u, hu, h⟩)
        · rw [find?_eq_none_iff.mpr hnone] at hfound
          cases hfound
        · rw [find?_eq_some_iff.mpr hu] at hfound
          obtain rfl := Option.some.inj hfound
          exact h

theorem previousAt?_eq_some_iff :
    previousAt? jobs id = some (j, i) ↔
      ∃ t, IsFirstNamed jobs id t ∧ IsJustBefore jobs t.createdAt j ∧ IsLastOfItsTime jobs j i := by
  rw [previousAt?]
  constructor
  · intro h
    obtain ⟨t, hfound, h⟩ := Option.bind_eq_some_iff.mp h
    exact ⟨t, find?_eq_some_iff.mp hfound, just_before_of_latestBefore? h⟩
  · rintro ⟨t, hfirst, hjust, hlast⟩
    rw [find?_eq_some_iff.mpr hfirst, Option.bind_some]
    cases h : latestBefore? (fun p : Job × Nat => p.1.createdAt) t.createdAt jobs.zipIdx with
    | none =>
        have hthere := List.mk_mem_zipIdx_iff_getElem?.mpr hlast.1
        exact absurd hjust.earlier (latestBefore?_eq_none_iff.mp h _ hthere)
    | some p =>
        obtain ⟨hjust', hlast'⟩ := just_before_of_latestBefore? (j := p.1) (i := p.2) h
        exact congrArg some (hlast'.unique hlast (hjust'.createdAt_eq hjust))

theorem IsFirstNamed.unique {u : Job} (ht : IsFirstNamed jobs id t) (hu : IsFirstNamed jobs id u) :
    t = u :=
  Option.some.inj ((find?_eq_some_iff.mpr ht).symm.trans (find?_eq_some_iff.mpr hu))

theorem just_before_of_previous? (h : previous? jobs id = some j) :
    ∃ t, IsFirstNamed jobs id t ∧ IsJustBefore jobs t.createdAt j := by
  rw [← map_fst_previousAt?] at h
  obtain ⟨⟨k, i⟩, hat, rfl⟩ := Option.map_eq_some_iff.mp h
  obtain ⟨t, hfirst, hjust, -⟩ := previousAt?_eq_some_iff.mp hat
  exact ⟨t, hfirst, hjust⟩

theorem IsJustBefore.of_perm (h : jobs.Perm others) (hj : IsJustBefore jobs instant j) :
    IsJustBefore others instant j :=
  ⟨h.mem_iff.mp hj.mem, hj.earlier, fun k hk => hj.none_between k (h.mem_iff.mpr hk)⟩

section Distinct

variable (hids : (jobs.map Job.id).Nodup)

include hids

theorem isFirstNamed_iff : IsFirstNamed jobs id t ↔ t ∈ jobs ∧ t.id = id := by
  constructor
  · intro h
    exact ⟨List.mem_of_find?_eq_some (find?_eq_some_iff.mpr h), h.1⟩
  · rintro ⟨ht, rfl⟩
    exact find?_eq_some_iff.mp (find?_eq_some_of_mem hids ht)

theorem previous?_eq_some_iff (htimes : (jobs.map createdAt).Nodup) :
    previous? jobs id = some j ↔
      ∃ t, (t ∈ jobs ∧ t.id = id) ∧ IsJustBefore jobs t.createdAt j := by
  constructor
  · intro h
    obtain ⟨t, hfirst, hjust⟩ := just_before_of_previous? h
    exact ⟨t, (isFirstNamed_iff hids).mp hfirst, hjust⟩
  · rintro ⟨t, ht, hjust⟩
    have hfirst := (isFirstNamed_iff hids).mpr ht
    cases h : previous? jobs id with
    | none =>
        rcases previous?_eq_none_iff.mp h with hnone | ⟨u, hu, hnone⟩
        · exact absurd ht.2 (hnone t ht.1)
        · obtain rfl := hfirst.unique hu
          exact absurd hjust.earlier (hnone j hjust.mem)
    | some k =>
        obtain ⟨u, hu, hjust'⟩ := just_before_of_previous? h
        obtain rfl := hfirst.unique hu
        have htime := hjust'.createdAt_eq hjust
        rw [List.inj_on_of_nodup_map htimes hjust'.mem hjust.mem htime]

theorem previous?_of_perm (htimes : (jobs.map createdAt).Nodup) (h : jobs.Perm others)
    (id : JobId) : previous? others id = previous? jobs id := by
  have hids' : (others.map Job.id).Nodup := (h.map Job.id).nodup_iff.mp hids
  have htimes' : (others.map createdAt).Nodup := (h.map createdAt).nodup_iff.mp htimes
  refine Option.ext fun j => ?_
  rw [previous?_eq_some_iff hids' htimes', previous?_eq_some_iff hids htimes]
  constructor
  · rintro ⟨t, ht, hjust⟩
    exact ⟨t, ⟨h.mem_iff.mpr ht.1, ht.2⟩, hjust.of_perm h.symm⟩
  · rintro ⟨t, ht, hjust⟩
    exact ⟨t, ⟨h.mem_iff.mp ht.1, ht.2⟩, hjust.of_perm h⟩

end Distinct

/-- The job before the first one with an identifier is one that was created earlier, with none
created in between, and of several that were created at that time the last one in the list.
There is none exactly if nothing has the identifier or nothing was created earlier. With distinct
identifiers and times the order of the list does not matter. -/
theorem just_before_first_named (jobs : List Job) (id : JobId) :
    (previous? jobs id = none ↔ (∀ j ∈ jobs, j.id ≠ id) ∨
        ∃ t, IsFirstNamed jobs id t ∧ ∀ j ∈ jobs, ¬ j.createdAt < t.createdAt) ∧
      (∀ j i, previousAt? jobs id = some (j, i) ↔
        ∃ t, IsFirstNamed jobs id t ∧ IsJustBefore jobs t.createdAt j ∧
          IsLastOfItsTime jobs j i) ∧
      (previousAt? jobs id).map Prod.fst = previous? jobs id ∧
      ((jobs.map Job.id).Nodup → (jobs.map createdAt).Nodup →
        ∀ others, jobs.Perm others → previous? others id = previous? jobs id) := by
  refine ⟨previous?_eq_none_iff, fun j i => previousAt?_eq_some_iff, map_fst_previousAt? jobs id,
    ?_⟩
  intro hids htimes others h
  exact previous?_of_perm hids htimes h id

/-- A job that was created some minutes after the beginning of 1970. -/
def createdAfter (id : Int64) (minutes : Fin 60) : Job where
  id := ⟨id⟩
  connectionId := .ofNat 1
  configType := .sync
  createdAt :=
    ⟨DateTime.epoch.date, { DateTime.epoch.time with minute := minutes, minute_lt := minutes.isLt }⟩
  status := .succeeded
  attempts := []

theorem just_before_first_named_shuffled :
    let jobs := [createdAfter 9 30, createdAfter 2 10, createdAfter 5 20]
    let shuffled := [createdAfter 5 20, createdAfter 9 30, createdAfter 2 10]
    (jobs.map Job.id).Nodup ∧ (jobs.map createdAt).Nodup ∧ jobs.Perm shuffled ∧
      previous? jobs ⟨9⟩ = some (createdAfter 5 20) ∧
      previous? shuffled ⟨9⟩ = previous? jobs ⟨9⟩ := by
  intro jobs shuffled
  have hids : (jobs.map Job.id).Nodup := by decide
  have htimes : (jobs.map createdAt).Nodup := by decide
  have hperm : jobs.Perm shuffled := by decide
  obtain ⟨-, -, -, horder⟩ := just_before_first_named jobs ⟨9⟩
  exact ⟨hids, htimes, hperm, by decide, horder hids htimes shuffled hperm⟩

/-- Identifiers and times repeat: the first job that is named 9 counts, and the last of those
that were created just before it. -/
example :
    previousAt? [createdAfter 7 10, createdAfter 8 10, createdAfter 9 20, createdAfter 8 10,
      createdAfter 9 5] ⟨9⟩ = some (createdAfter 8 10, 3) := by
  decide

end Job

end SyncLedger
