import Mathlib.Data.Int.Order.Basic
import Mathlib.Data.List.Lex
import SyncLedger.Time.DateTime

/-!
# Instants in order

Instants are compared by their fields, the weightiest first. Two instants have equally many
fields, and the fields are all there is to an instant, so this is a linear order: the one of
lists of numbers.
-/

namespace SyncLedger

namespace DateTime

theorem fieldsBefore_iff_lt {as bs : List Int} (h : as.length = bs.length) :
    fieldsBefore as bs = true ↔ as < bs := by
  induction as generalizing bs with
  | nil =>
      rw [List.length_nil, eq_comm, List.length_eq_zero_iff] at h
      subst h
      simp [fieldsBefore]
  | cons a as ih =>
      cases bs with
      | nil => cases h
      | cons b bs =>
          have hlength : as.length = bs.length := Nat.succ.inj h
          simp [fieldsBefore, List.cons_lt_cons_iff, ih hlength]

theorem fields_injective : Function.Injective fields := by
  rintro ⟨⟨year, month, day, _, _, _⟩, ⟨hour, minute, second, nano, _, _, _, _⟩⟩
    ⟨⟨year', month', day', _, _, _⟩, ⟨hour', minute', second', nano', _, _, _, _⟩⟩ h
  simp only [fields, List.cons.injEq, Int.natCast_inj] at h
  obtain ⟨rfl, rfl, rfl, rfl, rfl, rfl, rfl, -⟩ := h
  rfl

instance : LT DateTime := ⟨fun a b => a.before b = true⟩

instance : LE DateTime := ⟨fun a b => ¬ b.before a = true⟩

theorem before_iff_lt {a b : DateTime} : a.before b = true ↔ a < b := Iff.rfl

theorem fields_lt_iff {a b : DateTime} : a.fields < b.fields ↔ a < b :=
  (fieldsBefore_iff_lt (show a.fields.length = b.fields.length from rfl)).symm

theorem fields_le_iff {a b : DateTime} : a.fields ≤ b.fields ↔ a ≤ b :=
  not_lt.symm.trans (not_congr fields_lt_iff)

instance : LinearOrder DateTime where
  le_refl a := fields_le_iff.mp le_rfl
  le_trans a b c hab hbc :=
    fields_le_iff.mp ((fields_le_iff.mpr hab).trans (fields_le_iff.mpr hbc))
  lt_iff_le_not_ge a b := by
    rw [← fields_lt_iff, ← fields_le_iff, ← fields_le_iff]
    exact lt_iff_le_not_ge
  le_antisymm a b hab hba :=
    fields_injective ((fields_le_iff.mpr hab).antisymm (fields_le_iff.mpr hba))
  le_total a b := (le_total a.fields b.fields).imp fields_le_iff.mp fields_le_iff.mp
  toDecidableLE a b := inferInstanceAs (Decidable (¬ b.before a = true))
  toDecidableLT a b := inferInstanceAs (Decidable (a.before b = true))
  toDecidableEq := inferInstanceAs (DecidableEq DateTime)

end DateTime

end SyncLedger
