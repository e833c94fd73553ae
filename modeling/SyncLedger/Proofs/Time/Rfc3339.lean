import Mathlib.Tactic.SplitIfs
import SyncLedger.Proofs.Text.Digits
import SyncLedger.Time.Rfc3339

/-!
# Instants are read back

Reading an instant takes one field after another from the front of a text. What is written for
a field is read back if it is not followed by another digit; the marks between the fields see to
that. So the lemmas here are about a field with something after it, and the whole text is read
by using them in turn.
-/

namespace SyncLedger

/-- Clocks of UTC show the instant itself. -/
theorem DateTime.ofLocal?_zero (d : DateTime) : ofLocal? d.date d.time 0 = some d := by
  obtain ⟨date, time⟩ := d
  have hhour := time.hour_lt
  have hminute := time.minute_lt
  have hsame : ¬ (time.hour * 60 + time.minute - 0 : Int) < 0 ∧
      ¬ 1440 ≤ (time.hour * 60 + time.minute - 0 : Int) := by omega
  have hminutes : ((time.hour * 60 + time.minute - 0 : Int) % 1440).toNat =
      60 * time.hour + time.minute := by omega
  have htime : TimeOfDay.ofFields? ((60 * time.hour + time.minute) / 60)
      ((60 * time.hour + time.minute) % 60) time.second time.nano = some time := by
    rw [Nat.mul_add_div (by decide), Nat.div_eq_of_lt hminute, Nat.add_zero,
      Nat.mul_add_mod, Nat.mod_eq_of_lt hminute, TimeOfDay.ofFields?_self]
  simp only [ofLocal?, if_neg hsame.1, if_neg hsame.2, hminutes, htime]
  rfl

theorem Date.month_lt_and_day_lt (d : Date) : d.month < 100 ∧ d.day < 100 := by
  have hpos := d.day_pos
  have hle := d.day_le
  rw [daysInMonth] at hle
  split_ifs at hle
  all_goals omega

namespace Rfc3339

open Text

/-! ## Fields -/

section Number

variable {width limit n : Nat} {c : Char}

/-- Digits are read up to the first character that is none. -/
theorem number?_padded_append (hc : c.isDigit = false) (h : (padded width n).length ≤ limit)
    (cs : List Char) : number? limit (padded width n ++ c :: cs) = some (n, c :: cs) := by
  have hdigits : ∀ d ∈ padded width n, d.isDigit = true := fun d hd => isDigit_of_mem_padded hd
  have hrest : ((c :: cs).take (limit - (padded width n).length)).takeWhile Char.isDigit = [] := by
    cases limit - (padded width n).length with
    | zero => rfl
    | succ k => rw [List.take_succ_cons, List.takeWhile_cons, hc]; rfl
  have hall : ((padded width n ++ c :: cs).take limit).takeWhile Char.isDigit =
      padded width n := by
    rw [List.take_append, List.take_of_length_le h, List.takeWhile_append_of_pos hdigits, hrest,
      List.append_nil]
  have hne : (padded width n).isEmpty = false := by
    obtain ⟨d, ds, hds, -⟩ := exists_padded_eq_cons width n
    rw [hds]
    rfl
  simp only [number?, hall, hne, decimalValue_padded, List.drop_left]
  rfl

theorem field?_padded_append (hc : c.isDigit = false) (h : n < 100) (cs : List Char) :
    field? (padded 2 n ++ c :: cs) = some (n, c :: cs) := by
  have hlength : (padded 2 n).length ≤ 2 := Nat.le_of_eq (length_padded (by decide) h)
  rw [field?, trimStart_padded_append, number?_padded_append hc hlength]

theorem separator?_cons (h : isBlank c = false) (cs : List Char) :
    separator? c (c :: cs) = some cs := by
  rw [separator?, trimStart_cons_of_isBlank_eq_false h]
  exact if_pos rfl

end Number

/-! ## Years -/

theorem year?_of_isDigit {c : Char} (hc : c.isDigit = true) (cs : List Char) :
    year? (c :: cs) = (number? 4 (c :: cs)).map fun p => ((p.1 : Int), p.2) := by
  rw [year?, trimStart_cons_of_isBlank_eq_false (isBlank_eq_false_of_isDigit hc)]
  split
  · rename_i r hr
    obtain ⟨rfl, -⟩ := List.cons.inj hr
    cases hc
  · rename_i r hr
    obtain ⟨rfl, -⟩ := List.cons.inj hr
    cases hc
  · rfl

theorem year?_of_sign {n : Nat} {c : Char} (hc : c.isDigit = false) (cs : List Char) :
    year? ('-' :: (padded 4 n ++ c :: cs)) = some (-(n : Int), c :: cs) ∧
      year? ('+' :: (padded 4 n ++ c :: cs)) = some ((n : Int), c :: cs) := by
  have hlength : (padded 4 n).length ≤ (padded 4 n ++ c :: cs).length := by
    rw [List.length_append]
    exact Nat.le_add_right _ _
  have hnumber := number?_padded_append hc hlength cs
  constructor
  · rw [year?, trimStart_cons_of_isBlank_eq_false rfl]
    simp only [hnumber, Option.map_some]
  · rw [year?, trimStart_cons_of_isBlank_eq_false rfl]
    simp only [hnumber, Option.map_some]

theorem year?_year_append (y : Int) {c : Char} (hc : c.isDigit = false) (cs : List Char) :
    year? (year y ++ c :: cs) = some (y, c :: cs) := by
  rw [year]
  split
  · rename_i hy
    have hlt : y.toNat < 10000 := by omega
    have hlength : (padded 4 y.toNat).length ≤ 4 := Nat.le_of_eq (length_padded (by decide) hlt)
    have hnumber := number?_padded_append hc hlength cs
    obtain ⟨d, ds, hds, hd⟩ := exists_padded_eq_cons 4 y.toNat
    rw [hds, List.cons_append] at hnumber ⊢
    rw [year?_of_isDigit hd, hnumber, Option.map_some, Int.toNat_of_nonneg hy.1]
  · obtain ⟨hminus, hplus⟩ := year?_of_sign (n := y.natAbs) hc cs
    split
    · rw [List.cons_append, hminus, Int.ofNat_natAbs_of_nonpos (by omega), Int.neg_neg]
    · rw [List.cons_append, hplus, Int.natAbs_of_nonneg (by omega)]

/-! ## Fractions -/

theorem fraction?_padded {width n nano : Nat} (hpos : 0 < width) (hwidth : width ≤ 9)
    (h : n < Nat.pow 10 width) (hnano : n * Nat.pow 10 (9 - width) = nano) :
    fraction? ('.' :: padded width n ++ ['Z']) = some (nano, ['Z']) := by
  have hlength := length_padded hpos h
  have hcount : (padded width n ++ ['Z']).length - ['Z'].length = width := by
    rw [List.length_append, hlength, Nat.add_sub_cancel]
  have hnumber := number?_padded_append (by decide : 'Z'.isDigit = false)
    (Nat.le_trans (Nat.le_of_eq hlength) hwidth) []
  rw [List.cons_append, fraction?, hnumber, Option.map_some, hcount, hnano]
  rfl

/-- Only digits that are zero are left out. -/
theorem fraction?_fraction_append {nano : Nat} (h : nano < 1000000000) :
    fraction? (fraction nano ++ ['Z']) = some (nano, ['Z']) := by
  have hmillis : nano / 1000000 < 1000 := by omega
  have hmicros : nano / 1000 < 1000000 := by omega
  rw [fraction]
  split
  · rename_i hzero
    rw [hzero]
    rfl
  · split
    · rename_i hmod
      exact fraction?_padded (by decide) (by decide) hmillis
        (Nat.div_mul_cancel (Nat.dvd_of_mod_eq_zero hmod))
    · split
      · rename_i hmod
        exact fraction?_padded (by decide) (by decide) hmicros
          (Nat.div_mul_cancel (Nat.dvd_of_mod_eq_zero hmod))
      · exact fraction?_padded (by decide) (by decide) h (Nat.mul_one nano)

theorem dateEnd?_cons (cs : List Char) : dateEnd? ('T' :: cs) = some cs := rfl

/-- What follows the seconds is no digit. -/
theorem exists_fraction_append (nano : Nat) :
    ∃ c cs, fraction nano ++ ['Z'] = c :: cs ∧ c.isDigit = false := by
  rw [fraction]
  split
  · exact ⟨'Z', [], rfl, rfl⟩
  · split
    · exact ⟨'.', _, rfl, rfl⟩
    · split
      · exact ⟨'.', _, rfl, rfl⟩
      · exact ⟨'.', _, rfl, rfl⟩

/-! ## Instants -/

theorem read?_write (d : DateTime) : read? (write d) = some d := by
  obtain ⟨hmonth, hday⟩ := d.date.month_lt_and_day_lt
  have hhour := Nat.lt_trans d.time.hour_lt (by decide : 24 < 100)
  have hminute := Nat.lt_trans d.time.minute_lt (by decide : 60 < 100)
  have hsecond := Nat.lt_of_le_of_lt d.time.second_le (by decide : 60 < 100)
  have hlast : field? (padded 2 d.time.second ++ (fraction d.time.nano ++ ['Z'])) =
      some (d.time.second, fraction d.time.nano ++ ['Z']) := by
    obtain ⟨c, cs, hcs, hc⟩ := exists_fraction_append d.time.nano
    rw [hcs, field?_padded_append hc hsecond]
  simp only [write, List.append_assoc, List.cons_append]
  -- the reader takes its steps in the order of the text, and each one succeeds
  refine Option.bind_eq_some_iff.mpr ⟨_, year?_year_append d.date.year rfl _, ?_⟩
  refine Option.bind_eq_some_iff.mpr ⟨_, separator?_cons rfl _, ?_⟩
  refine Option.bind_eq_some_iff.mpr ⟨_, field?_padded_append rfl hmonth _, ?_⟩
  refine Option.bind_eq_some_iff.mpr ⟨_, separator?_cons rfl _, ?_⟩
  refine Option.bind_eq_some_iff.mpr ⟨_, field?_padded_append rfl hday _, ?_⟩
  refine Option.bind_eq_some_iff.mpr ⟨_, dateEnd?_cons _, ?_⟩
  refine Option.bind_eq_some_iff.mpr ⟨_, field?_padded_append rfl hhour _, ?_⟩
  refine Option.bind_eq_some_iff.mpr ⟨_, separator?_cons rfl _, ?_⟩
  refine Option.bind_eq_some_iff.mpr ⟨_, field?_padded_append rfl hminute _, ?_⟩
  refine Option.bind_eq_some_iff.mpr ⟨_, separator?_cons rfl _, ?_⟩
  refine Option.bind_eq_some_iff.mpr ⟨_, hlast, ?_⟩
  refine Option.bind_eq_some_iff.mpr ⟨_, fraction?_fraction_append d.time.nano_lt, ?_⟩
  refine Option.bind_eq_some_iff.mpr ⟨(0, []), rfl, (if_pos rfl).trans ?_⟩
  refine Option.bind_eq_some_iff.mpr ⟨_, d.date.ofFields?_self, ?_⟩
  exact Option.bind_eq_some_iff.mpr ⟨_, d.time.ofFields?_self, d.ofLocal?_zero⟩

/-- An instant is read back from its text. -/
theorem parse?_text (d : DateTime) : parse? (text d) = some d := by
  rw [parse?, text, String.toList_ofList, read?_write]

/-- A leap second, in a year with a sign. -/
example :
    let date : Date := ⟨-5, 12, 31, by decide, by decide, by decide⟩
    let time : TimeOfDay := ⟨23, 59, 60, 500000000, by decide, by decide, by decide, by decide⟩
    write ⟨date, time⟩ = "-0005-12-31T23:59:60.500Z".toList := by
  decide

end Rfc3339

end SyncLedger
