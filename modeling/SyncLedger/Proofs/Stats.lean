import Mathlib.Algebra.BigOperators.Group.List.Basic
import Mathlib.Algebra.GroupWithZero.Nat
import Mathlib.Order.Lattice
import SyncLedger.Stats

/-!
# The totals of an incremental run

The counters of incremental streams are added up one stream after the other, and every partial
sum that does not fit 64 bits is cut off. Adding to a number that was cut off and cutting off
again is the same as cutting off the sum of the numbers themselves, so a total is the exact sum
cut off once: neither the order of the streams nor their grouping matters. What is said of a
total is said once, for any of the four counters.
-/

namespace SyncLedger

/-- The greatest 64-bit number, or the number itself if it is less. -/
def saturated (n : Nat) : Nat := min (UInt64.size - 1) n

theorem saturated_toNat (a : UInt64) : saturated a.toNat = a.toNat :=
  min_eq_right (Nat.le_sub_one_of_lt a.toNat_lt)

theorem saturated_saturated_add (m n : Nat) : saturated (saturated m + n) = saturated (m + n) := by
  simp only [saturated]
  omega

theorem saturated_add_saturated (m n : Nat) : saturated (m + saturated n) = saturated (m + n) := by
  rw [add_comm, saturated_saturated_add, add_comm]

theorem saturated_mono {m n : Nat} (h : m ≤ n) : saturated m ≤ saturated n :=
  inf_le_inf_left _ h

/-- What is counted. -/
inductive StatsCounter where
  | recordsEmitted
  | bytesEmitted
  | recordsCommitted
  | bytesCommitted

namespace StatsCounter

/-- What a stream says about a counter; zero if it says nothing. -/
def reported : StatsCounter → StreamSyncStats → Nat
  | recordsEmitted, s => s.stats.recordsEmitted.elim 0 UInt64.toNat
  | bytesEmitted, s => s.stats.bytesEmitted.elim 0 UInt64.toNat
  | recordsCommitted, s => s.stats.recordsCommitted.elim 0 UInt64.toNat
  | bytesCommitted, s => s.stats.bytesCommitted.elim 0 UInt64.toNat

/-- A counter of a run. -/
def total : StatsCounter → StreamStatsTotals → Nat
  | recordsEmitted, t => t.recordsEmitted.toNat
  | bytesEmitted, t => t.bytesEmitted.toNat
  | recordsCommitted, t => t.recordsCommitted.toNat
  | bytesCommitted, t => t.bytesCommitted.toNat

/-- The sum of what all streams say about a counter, however large. -/
def exactSum (c : StatsCounter) (stats : List StreamSyncStats) : Nat :=
  (stats.map c.reported).sum

theorem exactSum_cons (c : StatsCounter) (s : StreamSyncStats) (stats : List StreamSyncStats) :
    c.exactSum (s :: stats) = c.reported s + c.exactSum stats := by
  rw [exactSum, exactSum, List.map_cons, List.sum_cons]

theorem exactSum_append (c : StatsCounter) (left right : List StreamSyncStats) :
    c.exactSum (left ++ right) = c.exactSum left + c.exactSum right := by
  rw [exactSum, exactSum, exactSum, List.map_append, List.sum_append]

theorem exactSum_perm (c : StatsCounter) {stats others : List StreamSyncStats}
    (h : stats.Perm others) : c.exactSum stats = c.exactSum others :=
  (h.map c.reported).sum_eq

/-- The counters are all there is to the totals. -/
theorem eq_of_total {a b : StreamStatsTotals} (h : ∀ c : StatsCounter, c.total a = c.total b) :
    a = b := by
  obtain ⟨_, _, _, _⟩ := a
  obtain ⟨_, _, _, _⟩ := b
  simp only [StreamStatsTotals.mk.injEq]
  exact ⟨UInt64.toNat_inj.mp (h recordsEmitted), UInt64.toNat_inj.mp (h bytesEmitted),
    UInt64.toNat_inj.mp (h recordsCommitted), UInt64.toNat_inj.mp (h bytesCommitted)⟩

theorem total_zero (c : StatsCounter) : c.total StreamStatsTotals.zero = 0 := by
  cases c <;> rfl

theorem total_add (c : StatsCounter) (a b : StreamStatsTotals) :
    c.total (a.add b) = saturated (c.total a + c.total b) := by
  cases c with
  | recordsEmitted | bytesEmitted | recordsCommitted | bytesCommitted => exact toNat_addCounts _ _

theorem total_totals (c : StatsCounter) (s : StreamSyncStats) :
    c.total s.stats.totals = c.reported s := by
  obtain ⟨_, _, ⟨records, bytes, records', bytes'⟩, _⟩ := s
  cases c with
  | recordsEmitted => cases records <;> rfl
  | bytesEmitted => cases bytes <;> rfl
  | recordsCommitted => cases records' <;> rfl
  | bytesCommitted => cases bytes' <;> rfl

theorem saturated_total (c : StatsCounter) (t : StreamStatsTotals) :
    saturated (c.total t) = c.total t := by
  cases c with
  | recordsEmitted | bytesEmitted | recordsCommitted | bytesCommitted => exact saturated_toNat _

/-- Going on from some totals, the sum is cut off once. -/
theorem total_foldl (c : StatsCounter) (stats : List StreamSyncStats) (t : StreamStatsTotals) :
    c.total (stats.foldl (fun acc s => acc.add s.stats.totals) t) =
      saturated (c.total t + c.exactSum stats) := by
  induction stats generalizing t with
  | nil => exact (c.saturated_total t).symm
  | cons s stats ih =>
      rw [List.foldl_cons, ih, total_add, total_totals, saturated_saturated_add, exactSum_cons,
        add_assoc]

theorem total_aggregate (c : StatsCounter) (stats : List StreamSyncStats) :
    c.total (StreamSyncStats.aggregate .incremental stats) = saturated (c.exactSum stats) := by
  rw [StreamSyncStats.aggregate, total_foldl, total_zero, zero_add]

end StatsCounter

namespace StreamSyncStats

/-- A total of an incremental run is the sum of what the streams report, or the greatest 64-bit
number if the sum does not fit. So it does not depend on the order of the streams, does not fall
when a stream is added, and is the cut-off sum of the totals of any two parts of the run. -/
theorem incremental_totals (stats : List StreamSyncStats) :
    (∀ c : StatsCounter, c.total (aggregate .incremental stats) = saturated (c.exactSum stats)) ∧
      (∀ others, stats.Perm others →
        aggregate .incremental others = aggregate .incremental stats) ∧
      (∀ before after s, stats = before ++ after → ∀ c : StatsCounter,
        c.total (aggregate .incremental stats) ≤
          c.total (aggregate .incremental (before ++ s :: after))) ∧
      ∀ left right, (left ++ right).Perm stats → ∀ c : StatsCounter,
        c.total (aggregate .incremental stats) =
          saturated (c.total (aggregate .incremental left) +
            c.total (aggregate .incremental right)) := by
  refine ⟨fun c => c.total_aggregate stats, ?_, ?_, ?_⟩
  · intro others hperm
    refine StatsCounter.eq_of_total fun c => ?_
    rw [c.total_aggregate, c.total_aggregate, c.exactSum_perm hperm]
  · rintro before after s rfl c
    rw [c.total_aggregate, c.total_aggregate]
    apply saturated_mono
    rw [c.exactSum_append, c.exactSum_append, c.exactSum_cons]
    omega
  · intro left right hperm c
    rw [c.total_aggregate, c.total_aggregate, c.total_aggregate, saturated_saturated_add,
      saturated_add_saturated, ← c.exactSum_append, c.exactSum_perm hperm]

/-- Records of one stream fill the counter, another one adds to it, and a third one reports bytes
alone. -/
def overflowing : List StreamSyncStats :=
  [⟨"orders", none, ⟨some 18446744073709551615, none, some 7, none⟩, none⟩,
    ⟨"users", none, ⟨some 5, some 11, none, none⟩, some true⟩,
    ⟨"users", some "archive", ⟨none, some 18446744073709551610, none, some 3⟩, none⟩]

theorem incremental_totals_overflowing :
    let totals := aggregate .incremental overflowing
    (overflowing.drop 1 ++ overflowing.take 1).Perm overflowing ∧
      totals = ⟨18446744073709551615, 18446744073709551615, 7, 3⟩ ∧
      aggregate .incremental overflowing.reverse = totals ∧
      StatsCounter.bytesEmitted.total (aggregate .incremental (overflowing.take 2)) ≤
        StatsCounter.bytesEmitted.total
          (aggregate .incremental (overflowing.take 2 ++ overflowing.drop 2)) ∧
      ∀ c : StatsCounter, c.total totals =
        saturated (c.total (aggregate .incremental (overflowing.drop 1)) +
          c.total (aggregate .incremental (overflowing.take 1))) := by
  intro totals
  have hperm : (overflowing.drop 1 ++ overflowing.take 1).Perm overflowing := by decide
  obtain ⟨-, horder, -, hparts⟩ := incremental_totals overflowing
  obtain ⟨-, -, hadded, -⟩ := incremental_totals (overflowing.take 2)
  exact ⟨hperm, by decide, horder _ (List.reverse_perm _).symm,
    hadded (overflowing.take 2) [] _ (List.append_nil _).symm .bytesEmitted, hparts _ _ hperm⟩

end StreamSyncStats

end SyncLedger
