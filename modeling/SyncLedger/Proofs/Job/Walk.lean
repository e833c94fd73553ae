import SyncLedger.Proofs.Job.Previous

/-!
# Going back through the history

From one job to the one before it, and on from there until there is none. Every step looks the
last job up by its identifier again, so with identifiers that are shared the steps may go round
in circles; `GoesBack` is therefore a relation and not a function. With distinct identifiers
every step leads to an earlier time, and to the latest of the earlier ones: so there is an end,
and on the way no time is left out.
-/

namespace SyncLedger

namespace Job

/-- The jobs that are met on the way back from a job until there is none before. -/
inductive GoesBack (jobs : List Job) : JobId → List Job → Prop where
  | stop {id : JobId} (h : previous? jobs id = none) : GoesBack jobs id []
  | step {id : JobId} {j : Job} {js : List Job} (h : previous? jobs id = some j)
      (rest : GoesBack jobs j.id js) : GoesBack jobs id (j :: js)

/-- The jobs that were created before an instant. -/
def earlier (jobs : List Job) (instant : DateTime) : List Job :=
  jobs.filter fun j => j.createdAt.before instant

/-- What is met on the way back from an instant: jobs of the list, each of them earlier than the
one before, and one for every earlier time of the list. -/
structure Retraces (jobs : List Job) (instant : DateTime) (js : List Job) : Prop where
  falling : (instant :: js.map createdAt).Pairwise fun a b => b < a
  mem : ∀ j ∈ js, j ∈ jobs
  complete : ∀ k ∈ jobs, k.createdAt < instant → ∃ j ∈ js, j.createdAt = k.createdAt

variable {jobs others : List Job} {id : JobId} {instant : DateTime} {start j k : Job}
  {js ks : List Job}

theorem GoesBack.unique (hj : GoesBack jobs id js) (hk : GoesBack jobs id ks) : js = ks := by
  induction hj generalizing ks with
  | stop h =>
      cases hk with
      | stop => rfl
      | step h' => cases h.symm.trans h'
  | step h _ ih =>
      cases hk with
      | stop h' => cases h.symm.trans h'
      | step h' rest =>
          obtain rfl := Option.some.inj (h.symm.trans h')
          rw [ih rest]

theorem GoesBack.congr (h : ∀ id, previous? others id = previous? jobs id)
    (hj : GoesBack jobs id js) : GoesBack others id js := by
  induction hj with
  | stop hnone => exact .stop ((h _).trans hnone)
  | step hsome _ ih => exact .step ((h _).trans hsome) ih

theorem mem_earlier : j ∈ earlier jobs instant ↔ j ∈ jobs ∧ j.createdAt < instant :=
  mem_filter_before

/-- With every step back fewer jobs remain. -/
theorem length_earlier_lt (h : IsJustBefore jobs instant j) :
    (earlier jobs j.createdAt).length < (earlier jobs instant).length := by
  have hfilter : earlier jobs j.createdAt =
      (earlier jobs instant).filter fun k => k.createdAt.before j.createdAt := by
    rw [earlier, earlier, List.filter_filter]
    refine List.filter_congr fun k _ => ?_
    rw [eq_comm, Bool.and_eq_left_iff_imp]
    intro hk
    exact DateTime.before_iff_lt.mpr ((DateTime.before_iff_lt.mp hk).trans h.earlier)
  rw [hfilter, List.length_filter_lt_length_iff_exists]
  refine ⟨j, mem_earlier.mpr ⟨h.mem, h.earlier⟩, ?_⟩
  rw [DateTime.before_iff_lt]
  exact lt_irrefl _

theorem Retraces.nil (h : ∀ k ∈ jobs, ¬ k.createdAt < instant) : Retraces jobs instant [] where
  falling := List.pairwise_singleton _ _
  mem := by simp
  complete := fun k hk hlt => absurd hlt (h k hk)

theorem Retraces.cons (hjust : IsJustBefore jobs instant j)
    (h : Retraces jobs j.createdAt js) : Retraces jobs instant (j :: js) where
  falling := by
    refine List.pairwise_cons.mpr ⟨?_, h.falling⟩
    intro time htime
    rcases List.mem_cons.mp htime with rfl | hlater
    · exact hjust.earlier
    · exact ((List.pairwise_cons.mp h.falling).1 time hlater).trans hjust.earlier
  mem := List.forall_mem_cons.mpr ⟨hjust.mem, h.mem⟩
  complete := by
    intro k hk hlt
    -- nothing was created between the job and the instant
    have hle : k.createdAt ≤ j.createdAt := not_lt.mp fun h => hjust.none_between k hk ⟨h, hlt⟩
    rcases hle.lt_or_eq with hbefore | heq
    · obtain ⟨m, hm, htime⟩ := h.complete k hk hbefore
      exact ⟨m, List.mem_cons_of_mem _ hm, htime⟩
    · exact ⟨j, List.mem_cons_self, heq.symm⟩

theorem Retraces.lt (h : Retraces jobs instant js) (hj : j ∈ js) : j.createdAt < instant :=
  (List.pairwise_cons.mp h.falling).1 _ (List.mem_map_of_mem hj)

/-- No time is met twice. -/
theorem Retraces.nodup (h : Retraces jobs instant js) : (js.map createdAt).Nodup :=
  (List.pairwise_cons.mp h.falling).2.imp fun hlt => hlt.ne'

theorem Retraces.existsUnique_iff (h : Retraces jobs instant js) (time : DateTime) :
    (∃! j, j ∈ js ∧ j.createdAt = time) ↔ time < instant ∧ ∃ k ∈ jobs, k.createdAt = time := by
  constructor
  · rintro ⟨j, ⟨hj, rfl⟩, -⟩
    exact ⟨h.lt hj, j, h.mem j hj, rfl⟩
  · rintro ⟨hlt, k, hk, rfl⟩
    obtain ⟨j, hj, htime⟩ := h.complete k hk hlt
    refine ⟨j, ⟨hj, htime⟩, ?_⟩
    rintro m ⟨hm, heq⟩
    exact List.inj_on_of_nodup_map h.nodup hm hj (heq.trans htime.symm)

/-- Where no two jobs were created at the same time all earlier ones are met. -/
theorem Retraces.perm_earlier (h : Retraces jobs instant js) (htimes : (jobs.map createdAt).Nodup) :
    js.Perm (earlier jobs instant) := by
  have hearlier : (earlier jobs instant).Nodup := (htimes.of_map _).filter _
  refine (List.perm_ext_iff_of_nodup (h.nodup.of_map _) hearlier).mpr fun j => ?_
  rw [mem_earlier]
  constructor
  · intro hj
    exact ⟨h.mem j hj, h.lt hj⟩
  · rintro ⟨hj, hlt⟩
    obtain ⟨m, hm, htime⟩ := h.complete j hj hlt
    rwa [← List.inj_on_of_nodup_map htimes (h.mem m hm) hj htime]

section Distinct

variable (hids : (jobs.map Job.id).Nodup)

include hids

theorem just_before_of_mem (hstart : start ∈ jobs) (h : previous? jobs start.id = some j) :
    IsJustBefore jobs start.createdAt j := by
  obtain ⟨t, hfirst, hjust⟩ := just_before_of_previous? h
  obtain rfl := hfirst.unique ((isFirstNamed_iff hids).mpr ⟨hstart, rfl⟩)
  exact hjust

theorem not_earlier_of_mem (hstart : start ∈ jobs) (h : previous? jobs start.id = none) :
    ∀ k ∈ jobs, ¬ k.createdAt < start.createdAt := by
  rcases previous?_eq_none_iff.mp h with hnone | ⟨t, hfirst, hnone⟩
  · exact absurd rfl (hnone start hstart)
  · obtain rfl := hfirst.unique ((isFirstNamed_iff hids).mpr ⟨hstart, rfl⟩)
    exact hnone

/-- The way back comes to an end. -/
theorem exists_goesBack (hstart : start ∈ jobs) : ∃ js, GoesBack jobs start.id js := by
  induction hlength : (earlier jobs start.createdAt).length using Nat.strong_induction_on
    generalizing start with
  | h n ih =>
      cases hprevious : previous? jobs start.id with
      | none => exact ⟨[], .stop hprevious⟩
      | some j =>
          have hjust := just_before_of_mem hids hstart hprevious
          obtain ⟨js, hjs⟩ := ih _ (hlength ▸ length_earlier_lt hjust) hjust.mem rfl
          exact ⟨j :: js, .step hprevious hjs⟩

theorem retraces_of_goesBack (h : GoesBack jobs start.id js) (hstart : start ∈ jobs) :
    Retraces jobs start.createdAt js := by
  induction js generalizing start with
  | nil =>
      cases h with
      | stop h => exact .nil (not_earlier_of_mem hids hstart h)
  | cons j js ih =>
      cases h with
      | step h rest =>
          have hjust := just_before_of_mem hids hstart h
          exact .cons hjust (ih rest hjust.mem)

end Distinct

/-- With distinct identifiers the way back from a job of the list comes to an end. It meets jobs
of the list, newest first, and exactly one for each earlier time; so with distinct times it meets
the earlier jobs, each of them once, and does so in whatever order they are listed. -/
theorem goes_back_through_all_times {jobs : List Job} (hids : (jobs.map Job.id).Nodup)
    {start : Job} (hstart : start ∈ jobs) :
    ∃ visited, (∀ js, GoesBack jobs start.id js ↔ js = visited) ∧
      (start :: visited).Pairwise (fun a b => b.createdAt < a.createdAt) ∧
      (∀ j ∈ visited, j ∈ jobs) ∧
      (∀ time, (∃! j, j ∈ visited ∧ j.createdAt = time) ↔
        time < start.createdAt ∧ ∃ k ∈ jobs, k.createdAt = time) ∧
      ((jobs.map createdAt).Nodup → visited.Perm (earlier jobs start.createdAt) ∧
        ∀ others, jobs.Perm others → ∀ js, GoesBack others start.id js ↔ js = visited) := by
  obtain ⟨visited, hvisited⟩ := exists_goesBack hids hstart
  have hretraces := retraces_of_goesBack hids hvisited hstart
  have hall (js : List Job) : GoesBack jobs start.id js ↔ js = visited :=
    ⟨fun h => h.unique hvisited, fun h => h ▸ hvisited⟩
  have hfalling : (start :: visited).Pairwise fun a b => b.createdAt < a.createdAt :=
    (List.pairwise_map (l := start :: visited)).mp hretraces.falling
  refine ⟨visited, hall, hfalling, hretraces.mem, hretraces.existsUnique_iff, ?_⟩
  intro htimes
  refine ⟨hretraces.perm_earlier htimes, fun others hperm js => ?_⟩
  have hsame := previous?_of_perm hids htimes hperm
  rw [← hall js]
  exact ⟨.congr fun id => (hsame id).symm, .congr hsame⟩

theorem goes_back_through_all_times_unordered :
    let jobs := [createdAfter 5 20, createdAfter 9 30, createdAfter 2 10, createdAfter 1 40]
    let met := [createdAfter 5 20, createdAfter 2 10]
    (jobs.map Job.id).Nodup ∧ createdAfter 9 30 ∈ jobs ∧ GoesBack jobs ⟨9⟩ met ∧
      met.Perm (earlier jobs (createdAfter 9 30).createdAt) ∧ GoesBack jobs.reverse ⟨9⟩ met := by
  intro jobs met
  have hids : (jobs.map Job.id).Nodup := by decide
  have htimes : (jobs.map createdAt).Nodup := by decide
  have hstart : createdAfter 9 30 ∈ jobs := by decide
  have hwalk : GoesBack jobs ⟨9⟩ met :=
    .step (by decide) (.step (by decide) (.stop (by decide)))
  obtain ⟨visited, hall, -, -, -, hdistinct⟩ := goes_back_through_all_times hids hstart
  obtain rfl := (hall met).mp hwalk
  obtain ⟨hperm, horder⟩ := hdistinct htimes
  have hreverse := (horder jobs.reverse (List.reverse_perm jobs).symm met).mpr rfl
  exact ⟨hids, hstart, hwalk, hperm, hreverse⟩

/-- Two jobs that share an identifier, one of them older and one newer than a third. -/
def circular : List Job := [createdAfter 2 30, createdAfter 1 50, createdAfter 1 20]

/-- Without distinct identifiers there may be no end. -/
theorem not_goesBack_circular (js : List Job) :
    ¬ GoesBack circular ⟨2⟩ js ∧ ¬ GoesBack circular ⟨1⟩ js := by
  have holder : previous? circular ⟨2⟩ = some (createdAfter 1 20) := by decide
  have hnewer : previous? circular ⟨1⟩ = some (createdAfter 2 30) := by decide
  induction js with
  | nil =>
      constructor <;> intro h
      · cases h with
        | stop h => cases h.symm.trans holder
      · cases h with
        | stop h => cases h.symm.trans hnewer
  | cons j js ih =>
      constructor <;> intro h
      · cases h with
        | step h rest =>
            obtain rfl := Option.some.inj (h.symm.trans holder)
            exact ih.2 rest
      · cases h with
        | step h rest =>
            obtain rfl := Option.some.inj (h.symm.trans hnewer)
            exact ih.1 rest

end Job

end SyncLedger
