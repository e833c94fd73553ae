import SyncLedger.Proofs.Text.Digits
import SyncLedger.Uuid

/-!
# Identifiers are read back

Of the four forms in which an identifier is read the grouped one is written. It has 36
characters and begins with a digit, so that it is not taken for one of the others: the form
without hyphens has 32 characters, and the marks of the other two are no digits.
-/

namespace SyncLedger

open Text

namespace Uuid

/-! ## Digits -/

theorem length_hexDigits (width n : Nat) : (hexDigits width n).length = width := by
  induction width generalizing n with
  | zero => rfl
  | succ width ih => rw [hexDigits, List.length_append, ih, List.length_singleton]

theorem hexNumber?_hexDigits (width n : Nat) :
    hexNumber? 0 (hexDigits width n) = some (n % Nat.pow 16 width) := by
  induction width generalizing n with
  | zero => exact congrArg some (Nat.mod_one n).symm
  | succ width ih =>
      have hdigit : hexValue? (hexDigit n) = some (n % 16) :=
        hexValue?_digitChar (Nat.mod_lt n (by decide))
      have hpow : Nat.pow 16 (width + 1) = 16 * Nat.pow 16 width := Nat.pow_succ'
      rw [hexDigits, hexNumber?_append, ih, Option.bind_some, hexNumber?, hdigit, Option.bind_some,
        hexNumber?, hpow, Nat.mod_mul, Nat.add_comm]

theorem exists_hexDigits_eq_cons (width n : Nat) :
    ∃ m ds, hexDigits (width + 1) n = hexDigit m :: ds := by
  induction width generalizing n with
  | zero => exact ⟨n, [], rfl⟩
  | succ width ih =>
      obtain ⟨m, ds, hds⟩ := ih (n / 16)
      refine ⟨m, ds ++ [hexDigit n], ?_⟩
      rw [hexDigits, hds, List.cons_append]

/-- A digit is no mark of another form. -/
theorem hexDigit_ne (n : Nat) : hexDigit n ≠ '\x7b' ∧ (hexDigit n).toLower ≠ 'u' := by
  have hall : ∀ i : Fin 16, Nat.digitChar i ≠ '\x7b' ∧ (Nat.digitChar i).toLower ≠ 'u' := by
    decide
  exact hall ⟨n % 16, Nat.mod_lt n (by decide)⟩

/-! ## Groups -/

/-- There are as many digits as the groups have places. -/
def Fill (ns : List Nat) (ds : List Char) : Prop := ds.length = ns.foldr (· + ·) 0

theorem Fill.tail {n : Nat} {ns : List Nat} {ds : List Char} (h : Fill (n :: ns) ds) :
    n ≤ ds.length ∧ Fill ns (ds.drop n) := by
  rw [Fill, List.foldr_cons] at h
  refine ⟨by omega, ?_⟩
  rw [Fill, List.length_drop]
  omega

theorem Fill.hyphenated_singleton {n : Nat} {ds : List Char} (h : Fill [n] ds) :
    hyphenated [n] ds = ds :=
  List.take_of_length_le (Nat.le_of_eq h)

theorem unhyphenated?_hyphenated {ns : List Nat} {ds : List Char} (h : Fill ns ds) :
    unhyphenated? ns (hyphenated ns ds) = some ds := by
  induction ns, ds using hyphenated.induct with
  | case1 ds =>
      obtain rfl := List.length_eq_zero_iff.mp h
      rfl
  | case2 n ds =>
      have hlength : ds.length = n := h
      rw [h.hyphenated_singleton, unhyphenated?, if_pos hlength]
  | case3 n m ns ds ih =>
      obtain ⟨hle, hrest⟩ := h.tail
      have hfront : (ds.take n).length = n := List.length_take_of_le hle
      rw [hyphenated, unhyphenated?, List.drop_left' hfront, List.take_left' hfront]
      simp only [ih hrest, Option.map_some, List.take_append_drop]

/-- There is a hyphen between each two groups. -/
theorem length_hyphenated {ns : List Nat} {ds : List Char} (h : Fill ns ds) (hne : ns ≠ []) :
    (hyphenated ns ds).length + 1 = ds.length + ns.length := by
  induction ns, ds using hyphenated.induct with
  | case1 ds => exact absurd rfl hne
  | case2 n ds => rw [h.hyphenated_singleton, List.length_singleton]
  | case3 n m ns ds ih =>
      obtain ⟨hle, hrest⟩ := h.tail
      have hlength := ih hrest (List.cons_ne_nil m ns)
      rw [List.length_drop] at hlength
      rw [hyphenated, List.length_append, List.length_cons, List.length_take_of_le hle,
        List.length_cons]
      omega

/-! ## Texts -/

theorem fill_digits (u : Uuid) : Fill groups (hexDigits 32 u.toNat) :=
  length_hexDigits 32 u.toNat

theorem length_write (u : Uuid) : u.write.length = 36 := by
  have hlength := length_hyphenated u.fill_digits (by decide)
  rw [length_hexDigits] at hlength
  exact Nat.succ.inj hlength

theorem grouped?_write (u : Uuid) : grouped? u.write = some u := by
  have hlt : u.toNat < Nat.pow 16 32 := u.bits.isLt
  have hself : ofNat u.toNat = u := by
    rw [ofNat, toNat, BitVec.ofNat_toNat, BitVec.setWidth_eq]
  rw [grouped?, write, unhyphenated?_hyphenated u.fill_digits, Option.bind_some,
    hexNumber?_hexDigits, Nat.mod_eq_of_lt hlt, Option.map_some, hself]

theorem exists_write_eq_cons (u : Uuid) : ∃ n cs, u.write = hexDigit n :: cs := by
  obtain ⟨n, ds, hds⟩ := exists_hexDigits_eq_cons 31 u.toNat
  rw [write, hds]
  exact ⟨n, _, rfl⟩

theorem read?_write (u : Uuid) : read? u.write = some u := by
  have hlength : ¬ u.write.length = 32 := by
    rw [length_write]
    decide
  obtain ⟨n, cs, hcs⟩ := u.exists_write_eq_cons
  obtain ⟨hbrace, hmark⟩ := hexDigit_ne n
  have hurn : (u.write.take urnMark.length).map Char.toLower ≠ urnMark := by
    rw [hcs]
    exact fun h => hmark (List.cons.inj h).1
  rw [read?, if_neg hlength, if_neg hurn, grouped?_write]
  -- what is left is that the text is not in braces
  intro r hr
  rw [hcs] at hr
  exact hbrace (List.cons.inj hr).1

/-- An identifier is read back from its text. -/
theorem parse?_text (u : Uuid) : parse? u.text = some u := by
  rw [parse?, text, String.toList_ofList, read?_write]

end Uuid

end SyncLedger
