/-!
# Counters

A counter only goes up, by one at a time. Its total is a 64-bit number.
-/

namespace SyncLedger

/-- How often something happened. -/
structure Counter where
  total : UInt64
deriving DecidableEq, Inhabited

namespace Counter

/-- Nothing happened yet. -/
def zero : Counter := ⟨0⟩

/-- It happened once more. -/
def increment (c : Counter) : Counter := ⟨c.total + 1⟩

theorem total_increment (c : Counter) : c.increment.total = c.total + 1 := rfl

theorem toNat_increment (c : Counter) (h : c.total.toNat + 1 < UInt64.size) :
    c.increment.total.toNat = c.total.toNat + 1 := by
  rw [total_increment, UInt64.toNat_add]
  exact Nat.mod_eq_of_lt h

end Counter

end SyncLedger
