import Mathlib.Tactic.SplitIfs
import SyncLedger.Proofs.Text.Digits
import SyncLedger.Text.Bytes
import SyncLedger.Text.Letters

/-!
# Blanks and offsets

No letter and no digit is a blank, in either case. So a text that begins and ends with one is not
changed when it is trimmed. The offset in bytes of what follows a text is the number of its bytes.
-/

namespace SyncLedger

namespace Text

/-! ## Blanks -/

theorem toNat_of_isAlphanum {c : Char} (h : c.isAlphanum = true) :
    48 ≤ c.toNat ∧ c.toNat ≤ 122 := by
  unfold Char.isAlphanum Char.isAlpha Char.isUpper Char.isLower Char.isDigit at h
  simp only [Bool.or_eq_true, Bool.and_eq_true, decide_eq_true_eq, ge_iff_le,
    UInt32.le_iff_toNat_le] at h
  change ((65 ≤ c.toNat ∧ c.toNat ≤ 90) ∨ (97 ≤ c.toNat ∧ c.toNat ≤ 122)) ∨
    (48 ≤ c.toNat ∧ c.toNat ≤ 57) at h
  omega

/-- The blanks are neither letters nor digits. -/
theorem isBlank_eq_false_of_isAlphanumeric {c : Char} (h : isAlphanumeric c = true) :
    isBlank c = false := by
  have hascii : ∀ r ∈ blankRanges, r.2 < 48 ∨ 122 < r.1 := by decide
  have hapart : ∀ r ∈ blankRanges, ∀ s ∈ alphanumericRanges, r.2 < s.1 ∨ s.2 < r.1 := by
    decide +kernel
  rw [isBlank, inRanges, List.any_eq_false]
  intro r hr hin
  simp only [Bool.and_eq_true, decide_eq_true_eq] at hin
  rw [isAlphanumeric, Bool.or_eq_true] at h
  rcases h with h | h
  · have hbetween := toNat_of_isAlphanum h
    have hblank := hascii r hr
    omega
  · obtain ⟨s, hs, hbetween⟩ := List.any_eq_true.mp h
    simp only [Bool.and_eq_true, decide_eq_true_eq] at hbetween
    have hblank := hapart r hr s hs
    omega

/-- A blank is the same in either case. -/
theorem isBlank_eq_false_of_toLower {c : Char} (h : isBlank c.toLower = false) :
    isBlank c = false := by
  unfold Char.toLower at h
  split at h
  · rename_i hupper
    refine isBlank_eq_false_of_isAlphanumeric ?_
    have hup : c.isUpper = true := decide_eq_true hupper
    unfold isAlphanumeric Char.isAlphanum Char.isAlpha
    rw [hup, Bool.true_or, Bool.true_or, Bool.true_or]
  · exact h

theorem trim_eq_self {cs : List Char} (hfront : ∀ c ∈ cs.head?, isBlank c = false)
    (hback : ∀ c ∈ cs.getLast?, isBlank c = false) : trim cs = cs := by
  have hstart : trimStart cs = cs := by
    cases cs with
    | nil => rfl
    | cons c cs => exact trimStart_cons_of_isBlank_eq_false (hfront c rfl) cs
  rw [trim, hstart, trimEnd]
  cases hlast : cs.reverse with
  | nil => rw [List.reverse_eq_nil_iff.mp hlast]; rfl
  | cons c ds =>
      have hc : isBlank c = false := by
        refine hback c ?_
        rw [List.getLast?_eq_head?_reverse, hlast]
        rfl
      rw [List.dropWhile_cons_of_neg (by rw [hc]; decide), ← hlast, List.reverse_reverse]

theorem mem_of_mem_trimEnd {c : Char} {cs : List Char} (h : c ∈ trimEnd cs) : c ∈ cs := by
  rw [trimEnd, List.mem_reverse] at h
  exact List.mem_reverse.mp ((List.dropWhile_sublist _).subset h)

theorem trim_cons {c : Char} (h : isBlank c = false) (cs : List Char) :
    trim (c :: cs) = c :: trimEnd cs := by
  rw [trim, trimStart_cons_of_isBlank_eq_false h, trimEnd, trimEnd, List.reverse_cons,
    List.dropWhile_append]
  split_ifs with hempty
  · rw [List.isEmpty_iff.mp hempty, List.dropWhile_cons_of_neg (by rw [h]; decide)]
    rfl
  · rw [List.reverse_append]
    rfl

/-! ## Offsets -/

theorem byteCount_append (cs ds : List Char) :
    byteCount (cs ++ ds) = byteCount cs + byteCount ds := by
  induction cs with
  | nil => simp
  | cons c cs ih => rw [List.cons_append, byteCount_cons, byteCount_cons, ih, Nat.add_assoc]

theorem takeBytes_byteCount (cs ds : List Char) : takeBytes (byteCount cs) (cs ++ ds) = cs := by
  induction cs with
  | nil => cases ds <;> rfl
  | cons c cs ih =>
      have hsize : c.utf8Size + byteCount cs ≠ 0 := by
        have hpos := c.utf8Size_pos
        omega
      rw [List.cons_append, byteCount_cons, takeBytes, if_neg hsize, Nat.add_sub_cancel_left, ih]

theorem dropBytes_byteCount (cs ds : List Char) : dropBytes (byteCount cs) (cs ++ ds) = ds := by
  have hparts := takeBytes_append_dropBytes (byteCount cs) (cs ++ ds)
  rw [takeBytes_byteCount] at hparts
  exact List.append_cancel_left hparts

end Text

end SyncLedger
