import SyncLedger.Json.Basic

/-!
# Equality of data

Values are compared part by part. So it can be evaluated whether two values are the same.
-/

namespace SyncLedger.Json

mutual

/-- Two values have the same parts. -/
def same : Json → Json → Bool
  | null, null => true
  | bool a, bool b => a = b
  | int m, int n => m = n
  | float x, float y => x = y
  | str s, str t => s = t
  | char c, char d => c = d
  | arr xs, arr ys => sameItems xs ys
  | obj fs, obj gs => sameFields fs gs
  | _, _ => false

def sameItems : List Json → List Json → Bool
  | [], [] => true
  | x :: xs, y :: ys => same x y && sameItems xs ys
  | _, _ => false

def sameFields : List (String × Json) → List (String × Json) → Bool
  | [], [] => true
  | f :: fs, g :: gs => f.1 = g.1 && (same f.2 g.2 && sameFields fs gs)
  | _, _ => false

end

mutual

theorem eq_of_same {x y : Json} (h : same x y = true) : x = y := by
  cases x with
  | null | bool | int | float | str | char => cases y <;> simp_all [same]
  | arr xs => cases y with
    | arr ys => exact congrArg arr (eq_of_sameItems h)
    | null | bool | int | float | str | char | obj => cases h
  | obj fs => cases y with
    | obj gs => exact congrArg obj (eq_of_sameFields h)
    | null | bool | int | float | str | char | arr => cases h

theorem eq_of_sameItems {xs ys : List Json} (h : sameItems xs ys = true) : xs = ys := by
  cases xs with
  | nil => cases ys with
    | nil => rfl
    | cons y ys => cases h
  | cons x xs => cases ys with
    | nil => cases h
    | cons y ys =>
        obtain ⟨hx, hxs⟩ := Bool.and_eq_true_iff.mp h
        rw [eq_of_same hx, eq_of_sameItems hxs]

theorem eq_of_sameFields {fs gs : List (String × Json)} (h : sameFields fs gs = true) :
    fs = gs := by
  cases fs with
  | nil => cases gs with
    | nil => rfl
    | cons g gs => cases h
  | cons f fs => cases gs with
    | nil => cases h
    | cons g gs =>
        obtain ⟨hname, hvalues⟩ := Bool.and_eq_true_iff.mp h
        obtain ⟨hf, hfs⟩ := Bool.and_eq_true_iff.mp hvalues
        rw [Prod.ext (of_decide_eq_true hname) (eq_of_same hf), eq_of_sameFields hfs]

end

mutual

theorem same_self (x : Json) : same x x = true := by
  cases x with
  | null | bool | int | float | str | char => simp [same]
  | arr xs => exact sameItems_self xs
  | obj fs => exact sameFields_self fs

theorem sameItems_self (xs : List Json) : sameItems xs xs = true := by
  cases xs with
  | nil => rfl
  | cons x xs => rw [sameItems, same_self, sameItems_self, Bool.and_self]

theorem sameFields_self (fs : List (String × Json)) : sameFields fs fs = true := by
  cases fs with
  | nil => rfl
  | cons f fs =>
      rw [sameFields, same_self, sameFields_self, Bool.and_self, Bool.and_true]
      exact decide_eq_true rfl

end

instance : DecidableEq Json := fun x y =>
  decidable_of_iff (same x y = true) ⟨eq_of_same, fun h => h ▸ same_self x⟩

end SyncLedger.Json
