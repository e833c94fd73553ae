import SyncLedger.Proofs.Timeout.Phase

/-!
# What goes on in silence

Only a watchdog that polls counts timeouts, and only a run that takes notice of one asks the
flag. Everything else leaves both alone (`Supervision.Quiet`), and nothing at all opens a
supervisor again (`Supervision.Onward`).

If the supervisor is closed before a timeout was reported, or the run has no watchdog any
more, then nothing is left that could report one: the session goes on in silence to its end
(`Supervisor.proceed_hushed`).
-/

namespace SyncLedger

variable {σ : Type}

namespace Supervision

/-- Nothing opens the supervisor again, or makes it forget that there was a run. -/
structure Onward (s t : Supervision σ) : Prop where
  hasRun : t.hasRun = s.hasRun
  closed : s.closed = true → t.closed = true

/-- No timeout is counted, and no flag is evaluated. -/
structure Quiet (s t : Supervision σ) : Prop extends Onward s t where
  timeouts : t.timeouts = s.timeouts
  flags : t.flags = s.flags

theorem Onward.refl (s : Supervision σ) : Onward s s := ⟨rfl, id⟩

theorem Onward.trans {s t u : Supervision σ} (h : Onward s t) (h' : Onward t u) : Onward s u :=
  ⟨h'.hasRun.trans h.hasRun, fun hs => h'.closed (h.closed hs)⟩

theorem Quiet.refl (s : Supervision σ) : Quiet s s := ⟨.refl s, rfl, rfl⟩

theorem Quiet.trans {s t u : Supervision σ} (h : Quiet s t) (h' : Quiet t u) : Quiet s u :=
  ⟨h.toOnward.trans h'.toOnward, h'.timeouts.trans h.timeouts, h'.flags.trans h.flags⟩

theorem Quiet.setNow (s : Supervision σ) (now : Nat) : Quiet s { s with now := now } :=
  ⟨⟨rfl, id⟩, rfl, rfl⟩

/-- The watchdog has no timeout to report that is still to be noticed. -/
def Unreported (s : Supervision σ) : Prop := ∀ call, s.watchdog ≠ .ended (.timedOut call)

/-- Whatever the watchdog of the run is up to, it is not going to poll any more. -/
def Silenced (s : Supervision σ) : Prop := s.closed = true ∨ s.watchdog = .none

end Supervision

namespace Supervisor

/-! ## Single actions -/

theorem quiet_tellToStop (sv : Supervisor σ) (s : Supervision σ) : s.Quiet (sv.tellToStop s) := by
  unfold tellToStop
  split
  · exact .refl s
  · split
    · exact ⟨⟨rfl, fun _ => rfl⟩, rfl, rfl⟩
    · exact ⟨⟨rfl, fun _ => rfl⟩, rfl, rfl⟩

theorem quiet_beginStep (sv : Supervisor σ) (step : TaskStep) (s : Supervision σ) :
    s.Quiet (sv.beginStep step s).2 := by
  cases step with
  | close => exact sv.quiet_tellToStop s
  | block millis => exact .setNow s (later s millis)
  | _ => exact ⟨⟨rfl, id⟩, rfl, rfl⟩

theorem quiet_wait (hold : Hold) (s : Supervision σ) : s.Quiet (hold.wait s) := by
  cases hold <;> exact ⟨⟨rfl, id⟩, rfl, rfl⟩

theorem quiet_carryOn (sv : Supervisor σ) (steps : List TaskStep) (s : Supervision σ) :
    s.Quiet (sv.carryOn steps s).state := by
  induction steps generalizing s with
  | nil => exact .refl s
  | cons step steps ih =>
      have hbegun := sv.quiet_beginStep step s
      simp only [carryOn]
      split
      · exact hbegun.trans (ih _)
      · exact hbegun.trans (quiet_wait _ _)

theorem quiet_resume (sv : Supervisor σ) (task : TaskState) (s : Supervision σ) :
    s.Quiet (sv.resume task s).state := by
  unfold resume
  split
  · exact sv.quiet_carryOn _ s
  · split
    · exact sv.quiet_carryOn _ s
    · exact quiet_wait _ s
  · exact .refl s

theorem quiet_act (sv : Supervisor σ) (closer : Closer) (s : Supervision σ) :
    s.Quiet (sv.act closer s).2 := by
  have hcloseAt : ∀ instant, s.Quiet (sv.closeAt instant s).2 := by
    intro instant
    unfold closeAt
    split
    · exact sv.quiet_tellToStop s
    · exact .refl s
  cases closer with
  | fresh delay => exact hcloseAt _
  | waiting instant => exact hcloseAt instant
  | _ => exact .refl s

theorem quiet_callAt (instant : Nat) (s : Supervision σ) : s.Quiet (callAt instant s) :=
  ⟨⟨rfl, id⟩, rfl, rfl⟩

/-- A run takes notice of anything but a timeout in silence. -/
theorem attend_of_unreported (sv : Supervisor σ) {s : Supervision σ} (h : s.Unreported) :
    (sv.attend s).1 = none ∧ s.Quiet (sv.attend s).2 ∧
      ((sv.attend s).2.watchdog = s.watchdog ∨ (sv.attend s).2.watchdog = .none) := by
  unfold attend
  split
  · rename_i call hw
    exact absurd hw (h call)
  · exact ⟨rfl, ⟨⟨rfl, id⟩, rfl, rfl⟩, .inr rfl⟩
  · exact ⟨rfl, ⟨⟨rfl, id⟩, rfl, rfl⟩, .inr rfl⟩
  all_goals exact ⟨rfl, .refl s, .inl rfl⟩

theorem onward_attend (sv : Supervisor σ) (s : Supervision σ) : s.Onward (sv.attend s).2 := by
  unfold attend
  split
  · simp only
    split <;> exact ⟨rfl, id⟩
  all_goals exact ⟨rfl, id⟩

theorem onward_expire (sv : Supervisor σ) (call : DestinationCall) (s : Supervision σ) :
    s.Onward (sv.expire call s) := by
  unfold expire
  by_cases h : sv.metered = true <;> cases call <;>
    simp only [h, if_true, if_false, Bool.false_eq_true] <;> exact ⟨rfl, id⟩

theorem onward_watch (sv : Supervisor σ) (s : Supervision σ) : s.Onward (sv.watch s) := by
  unfold watch rouse
  split
  · split
    · exact ⟨rfl, id⟩
    · split <;> exact ⟨rfl, id⟩
  · split
    · exact ⟨rfl, id⟩
    · split
      · have h := sv.onward_expire ‹_› (sv.endStopping s)
        exact ⟨h.hasRun, h.closed⟩
      · exact ⟨rfl, id⟩
  all_goals exact ⟨rfl, id⟩

theorem onward_poll (sv : Supervisor σ) (limit : Option Nat) (s : Supervision σ) :
    s.Onward (sv.poll limit s) := by
  unfold poll
  split
  · split
    · rename_i call instant _
      have h := sv.onward_expire call (callAt instant s)
      exact ⟨h.hasRun, h.closed⟩
    · exact ⟨rfl, id⟩
  all_goals exact .refl s

end Supervisor

/-! ## Turns in silence -/

/-- Between two points of a session nothing is counted and no flag is evaluated, no watchdog
comes up, and the run is not cancelled. -/
structure Session.Hushed (x y : Session σ) : Prop where
  quiet : x.state.Quiet y.state
  unreported : x.state.Unreported → y.state.Unreported
  alone : x.state.watchdog = .none → y.state.watchdog = .none
  outcome : ∀ o, y.outcome = some o →
    x.outcome = some o ∨ ∀ call, o.result ≠ .error (.timedOut call)

namespace Session

variable {x y z : Session σ}

theorem Hushed.refl (x : Session σ) : Hushed x x := ⟨.refl _, id, id, fun _ => .inl⟩

theorem Hushed.trans (h : Hushed x y) (h' : Hushed y z) : Hushed x z := by
  refine ⟨h.quiet.trans h'.quiet, fun hx => h'.unreported (h.unreported hx),
    fun hx => h'.alone (h.alone hx), fun o ho => ?_⟩
  rcases h'.outcome o ho with hy | hne
  · exact h.outcome o hy
  · exact .inr hne

theorem Hushed.silenced (h : Hushed x y) (hx : x.state.Silenced) : y.state.Silenced :=
  hx.imp h.quiet.closed h.alone

/-- The watchdog stays as it is, or it is dismissed. -/
theorem hushed_of_watchdog (hquiet : x.state.Quiet y.state)
    (hw : y.state.watchdog = x.state.watchdog ∨ y.state.watchdog = .none)
    (ho : y.outcome = x.outcome) : Hushed x y := by
  refine ⟨hquiet, fun hx call hy => ?_, fun hx => ?_, fun o h => .inl (ho.symm.trans h)⟩
  · rcases hw with hw | hw
    · exact hx call (hw.symm.trans hy)
    · cases hw.symm.trans hy
  · rcases hw with hw | hw
    · exact hw.trans hx
    · exact hw

theorem hushed_finish (x : Session σ) {result : Except Interruption Unit}
    (h : ∀ call, result ≠ .error (.timedOut call)) : Hushed x (x.finish result) := by
  refine ⟨⟨⟨rfl, id⟩, rfl, rfl⟩, fun _ call hw => ?_, fun _ => rfl, fun o ho => .inr ?_⟩
  · cases hw
  · obtain rfl := Option.some.inj ho
    exact h

theorem hushed_settle (x : Session σ) : Hushed x x.settle := by
  unfold settle
  split
  · exact hushed_finish x fun call => by simp
  · split
    · exact hushed_finish x fun call => by simp
    · exact .refl x

theorem hushed_giveUp (x : Session σ) : Hushed x x.giveUp := by
  unfold giveUp
  split
  · exact .refl x
  · exact hushed_finish x fun call => by simp

end Session

namespace Supervisor

variable {x y : Session σ}

theorem hushed_goOn (sv : Supervisor σ) (x : Session σ) : x.Hushed (sv.goOn x) :=
  Session.hushed_of_watchdog (sv.quiet_resume x.task x.state)
    (.inl (sv.resume_advanced x.task x.state).watchdog) rfl

theorem hushed_runTurn (sv : Supervisor σ) (h : x.state.Unreported) :
    x.Hushed (sv.runTurn x) := by
  have hgone := sv.hushed_goOn x
  unfold runTurn
  split
  · exact .refl x
  · simp only
    split
    · obtain ⟨hnone, hquiet, hw⟩ := sv.attend_of_unreported (hgone.unreported h)
      unfold heed
      simp only [hnone]
      have hnoticed : (sv.goOn x).Hushed
          { sv.goOn x with state := (sv.attend (sv.goOn x).state).2 } :=
        Session.hushed_of_watchdog hquiet hw rfl
      exact hgone.trans (hnoticed.trans ((sv.hushed_goOn _).trans (Session.hushed_settle _)))
    · exact hgone.trans (Session.hushed_settle _)

theorem hushed_closerTurn (sv : Supervisor σ) (x : Session σ) : x.Hushed (sv.closerTurn x) :=
  Session.hushed_of_watchdog (sv.quiet_act x.closer x.state)
    (.inl (sv.closerTurn_closerTurned x).same.watchdog) rfl

theorem hushed_turn (sv : Supervisor σ) (h : x.state.Unreported) : x.Hushed (sv.turn x) := by
  have hboth : x.Hushed (if x.isCloserFirst then sv.runTurn (sv.closerTurn x)
      else sv.closerTurn (sv.runTurn x)) := by
    have hcloser := sv.hushed_closerTurn x
    split
    · exact hcloser.trans (sv.hushed_runTurn (hcloser.unreported h))
    · exact (sv.hushed_runTurn h).trans (sv.hushed_closerTurn _)
  exact ⟨hboth.quiet, hboth.unreported, hboth.alone, hboth.outcome⟩

/-! ## Time that passes in silence -/

/-- A watchdog that is not going to poll any more ends the next time it gets to run. -/
theorem rouse_of_silenced (sv : Supervisor σ) {s : Supervision σ} (h : s.Silenced) :
    (∃ result events, (∀ call, result ≠ .timedOut call) ∧ s.watchdog ≠ .none ∧
        sv.rouse s = { s with watchdog := .ended result, events := events }) ∨
      s.watchdog.isAlive = false ∧ sv.rouse s = s := by
  cases hw : s.watchdog with
  | fresh =>
      have hclosed : s.closed = true := h.resolve_right (by simp [hw])
      cases hfirst : sv.firstPoll? s.now with
      | none => exact .inl ⟨.failed, s.events, by simp, by simp, by simp [rouse, hw, hfirst]⟩
      | some due =>
          exact .inl ⟨.stopped, s.events ++ [stoppingEvent], by simp, by simp,
            by simp [rouse, hw, hfirst, hclosed, halt, Supervision.log]⟩
  | polling due =>
      have hclosed : s.closed = true := h.resolve_right (by simp [hw])
      exact .inl ⟨.stopped, s.events ++ [stoppingEvent], by simp, by simp,
        by simp [rouse, hw, hclosed, halt, Supervision.log]⟩
  | ended result => exact .inr ⟨rfl, by simp [rouse, hw]⟩
  | none => exact .inr ⟨rfl, by simp [rouse, hw]⟩

theorem hushed_watchTurn (sv : Supervisor σ) (h : x.state.Silenced) :
    x.Hushed (sv.watchTurn x) ∧ (sv.watchTurn x).state.watchdog.isAlive = false := by
  have hsilenced : (sv.endStopping x.state).Silenced := h
  have hturn : sv.watchTurn x = { x with state := sv.rouse (sv.endStopping x.state) } := rfl
  rcases sv.rouse_of_silenced hsilenced with ⟨result, events, hne, hsome, hrouse⟩ | ⟨hdead, hrouse⟩
  · rw [hturn, hrouse]
    refine ⟨⟨⟨⟨rfl, id⟩, rfl, rfl⟩, fun _ call hend => ?_, fun hn => absurd hn hsome,
      fun _ => .inl⟩, rfl⟩
    exact hne call (Watchdog.ended.inj hend)
  · rw [hturn, hrouse]
    exact ⟨Session.hushed_of_watchdog ⟨⟨rfl, id⟩, rfl, rfl⟩ (.inl rfl) rfl, hdead⟩

theorem poll_of_not_isAlive (sv : Supervisor σ) {s : Supervision σ}
    (h : s.watchdog.isAlive = false) (limit : Option Nat) : sv.poll limit s = s := by
  unfold poll
  split
  · rename_i hw
    rw [hw] at h
    cases h
  all_goals rfl

theorem hushed_pass? (sv : Supervisor σ) (h : x.state.watchdog.isAlive = false)
    (hz : sv.pass? x = some y) : x.Hushed y := by
  have hcall : ∀ instant, x.Hushed (callTurn instant x) := fun instant =>
    Session.hushed_of_watchdog (quiet_callAt _ x.state) (.inl rfl) rfl
  have hpoll : sv.pollTurn x = x := by
    rw [pollTurn, sv.poll_of_not_isAlive h]
  simp only [pass?, hpoll] at hz
  split at hz
  · cases hz
    exact hcall _
  · split at hz
    · cases hz
      exact .refl x
    · obtain ⟨instant, _, rfl⟩ := Option.map_eq_some_iff.mp hz
      exact hcall instant

/-! ## The rest of a session -/

/-- If the next turn leaves nobody who could report a timeout, none is ever reported. -/
theorem proceed_hushed (sv : Supervisor σ) (hunreported : x.state.Unreported)
    (hsilenced : (sv.turn x).state.Silenced) : x.Hushed (sv.proceed x) := by
  -- what holds at the beginning of each round, and after the turn of the parties
  refine sv.proceed_of_rounds (fun y => x.Hushed y ∧ (sv.turn y).state.Silenced)
    (fun y => x.Hushed y ∧ y.state.Silenced) (fun y => x.Hushed y) ?_ ?_ ?_ x
    ⟨.refl x, hsilenced⟩
  · intro y ⟨hy, hturn⟩
    have hnext := hy.trans (sv.hushed_turn (hy.unreported hunreported))
    cases hdone : (sv.turn y).isDone with
    | true => exact .inl ⟨rfl, hnext⟩
    | false => exact .inr ⟨rfl, hnext, hturn⟩
  · intro y z ⟨hy, hsil⟩ hz
    obtain ⟨hwatch, hdead⟩ := sv.hushed_watchTurn hsil
    have hpassed := hwatch.trans (sv.hushed_pass? hdead hz)
    have hnext := hy.trans hpassed
    refine ⟨hnext, ?_⟩
    exact (sv.hushed_turn (hnext.unreported hunreported)).silenced (hpassed.silenced hsil)
  · intro y ⟨hy, hsil⟩ _
    exact hy.trans ((sv.hushed_watchTurn hsil).1.trans (Session.hushed_giveUp _))

end Supervisor

end SyncLedger
