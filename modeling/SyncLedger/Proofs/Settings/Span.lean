import Mathlib.Tactic.SplitIfs
import SyncLedger.Proofs.Json.Range
import SyncLedger.Settings.File

/-!
# The spans that settings can give

A span is read from a floating-point number of seconds. Rounding to a nanosecond does not carry
a number over the limit of a span: a number with a fraction is far below it, and a whole one is
not rounded at all.
-/

namespace SyncLedger

theorem Binary64.significand_lt (x : Binary64) : x.significand < 2 * exponentWeight := by
  have hfraction : x.fractionField < exponentWeight := Nat.mod_lt _ (by decide)
  rw [significand]
  split_ifs <;> omega

theorem roundDiv_one (num : Nat) : roundDiv num 1 = num := by
  simp [roundDiv, Nat.mod_one]

theorem roundDiv_le (num den : Nat) : roundDiv num den ≤ num + 1 := by
  have hle := Nat.div_le_self num den
  rw [roundDiv]
  split_ifs <;> omega

namespace Duration

/-- The span fits into whole seconds of 64 bits and a rest. -/
def Fits (d : Duration) : Prop := d.wholeSeconds < secondsLimit

theorem fits_of_nanos_lt {d : Duration} (h : d.nanos < secondsLimit * perSecond) : d.Fits :=
  Nat.div_lt_of_lt_mul (Nat.mul_comm _ _ ▸ h)

theorem fits_of_ofSeconds {x : Binary64} {d : Duration} (h : ofSeconds x = .ok d) : d.Fits := by
  simp only [ofSeconds] at h
  split_ifs at h with hnan hnegative hinfinite hlarge
  obtain rfl := Except.ok.inj h
  apply fits_of_nanos_lt
  rcases Int.le_total 0 x.power with hpower | hpower
  · -- a whole number
    have hden : (-x.power).toNat = 0 := Int.toNat_of_nonpos (by omega)
    simp only [hden, Nat.shiftLeft_zero, Nat.mul_one, roundDiv_one] at hlarge ⊢
    exact Nat.mul_lt_mul_of_pos_right (Nat.lt_of_not_le hlarge) (by decide)
  · have hnum : x.power.toNat = 0 := Int.toNat_of_nonpos hpower
    have hsignificand := x.significand_lt
    have hround := roundDiv_le (x.significand * perSecond) (1 <<< (-x.power).toNat)
    have hroom : 2 * Binary64.exponentWeight * perSecond + 1 < secondsLimit * perSecond := by decide
    have hscaled := Nat.mul_le_mul_right perSecond (Nat.le_of_lt hsignificand)
    simp only [hnum, Nat.shiftLeft_zero]
    omega

end Duration

namespace TimeoutSettings

open Decode

/-- All three spans fit. -/
structure Fits (s : TimeoutSettings) : Prop where
  pollInterval : s.pollInterval.Fits
  timeout : s.timeout.Fits
  shutdownGrace : s.shutdownGrace.Fits

theorem gives_seconds : Gives seconds Duration.Fits := by
  intro j d h
  rw [seconds] at h
  split at h
  · split at h
    · rename_i hd
      obtain rfl := Except.ok.inj h
      exact Duration.fits_of_ofSeconds hd
    · cases h
  · cases h

theorem gives_secondsOr (name : String) {otherwise : Duration} (h : otherwise.Fits) :
    (secondsOr name otherwise).Gives Duration.Fits where
  present j d hd := by
    change (option seconds j).map (·.getD otherwise) = .ok d at hd
    cases hx : option seconds j with
    | error e =>
        rw [hx] at hd
        cases hd
    | ok x =>
        rw [hx] at hd
        cases hd
        cases x with
        | none => exact h
        | some d => exact gives_option gives_seconds j (some d) hx d rfl
  absent d hd := by
    cases hd
    exact h
  cut d hd := by
    cases hd
    exact h

/-- Whatever the section about supervision gives fits. -/
theorem fits_of_decode {d : Dialect} {j : Json} {s : TimeoutSettings}
    (h : TimeoutSettings.decode d j = .ok s) : s.Fits := by
  have hspan : ∀ seconds : Nat, seconds < Duration.secondsLimit → (Duration.seconds seconds).Fits :=
    fun seconds hlt => Duration.fits_of_nanos_lt
      (Nat.mul_lt_mul_of_pos_right hlt (by decide))
  refine gives_record d _ ?_ j s h
  refine .and (Q := Duration.Fits) (.and (Q := Duration.Fits) (.and (Q := Duration.Fits)
    (gives_nothing fun a ha b hb c hc => ⟨ha, hb, hc⟩) ?_) ?_) ?_
  · exact gives_secondsOr _ (hspan 60 (by decide))
  · exact gives_secondsOr _ (hspan 7200 (by decide))
  · exact gives_secondsOr _ (hspan 10 (by decide))

end TimeoutSettings

end SyncLedger
