import Mathlib.Data.Char
import Mathlib.Data.List.Lex
import Mathlib.Order.Monotone.Basic

/-!
# The order of texts

Texts are ordered by their code points. Compared byte by byte in UTF-8 they have the same order:
of two characters the one with the lesser code point has the lesser byte where their bytes first
differ, because the first byte of a longer encoding is greater than that of a shorter one.
-/

namespace SyncLedger.Text

/-- The bytes of a character in UTF-8, as numbers. -/
def charBytes (c : Char) : List Nat := (String.utf8EncodeChar c).map UInt8.toNat

/-- The bytes of a text in UTF-8, as numbers. -/
def bytes (s : String) : List Nat := s.toByteArray.data.toList.map UInt8.toNat

theorem bytes_eq (s : String) : bytes s = s.toList.flatMap charBytes := by
  rw [bytes, ← String.utf8Encode_toList, List.utf8Encode, List.toList_data_toByteArray,
    List.map_flatMap]
  rfl

theorem bytes_injective : Function.Injective bytes := by
  intro s t h
  have hbytes := List.map_injective_iff.mpr (fun _ _ => UInt8.toNat_inj.mp) h
  exact String.toByteArray_inj.mp (ByteArray.ext (Array.toList_inj.mp hbytes))

theorem charBytes_ne_nil (c : Char) : charBytes c ≠ [] := by
  simp [charBytes]

theorem val_toNat_lt (c : Char) : c.val.toNat < 0x110000 := by
  have hvalid := c.valid
  simp only [UInt32.isValidChar, Nat.isValidChar] at hvalid
  omega

/-- The bytes hold the digits of the code point in base 64; the first one also tells how many
there are. -/
theorem charBytes_eq (c : Char) :
    charBytes c =
      let v := c.val.toNat
      if v ≤ 127 then [v]
      else if v ≤ 2047 then [v / 64 + 192, v % 64 + 128]
      else if v ≤ 65535 then [v / 64 / 64 + 224, v / 64 % 64 + 128, v % 64 + 128]
      else [v / 64 / 64 / 64 + 240, v / 64 / 64 % 64 + 128, v / 64 % 64 + 128, v % 64 + 128] := by
  have hc := val_toNat_lt c
  simp only [charBytes, String.utf8EncodeChar, Nat.div_div_eq_div_mul]
  split_ifs <;>
    simp only [List.map_cons, List.map_nil, UInt8.toNat_ofNat', List.cons.injEq, and_true] <;>
    omega

/-- Whatever follows, the character with the lesser code point comes first. -/
theorem charBytes_append_lt {c d : Char} (h : c < d) (xs ys : List Nat) :
    charBytes c ++ xs < charBytes d ++ ys := by
  have hlt : c.val.toNat < d.val.toNat := h
  have hd := val_toNat_lt d
  simp only [charBytes_eq]
  generalize c.val.toNat = v at hlt
  generalize d.val.toNat = w at hlt hd
  split_ifs <;>
    simp only [List.cons_append, List.nil_append, List.cons_lt_cons_iff] <;>
    omega

theorem flatMap_charBytes_lt {cs ds : List Char} (h : cs < ds) :
    cs.flatMap charBytes < ds.flatMap charBytes := by
  induction h with
  | nil =>
      rename_i d ds
      obtain ⟨b, bs, hb⟩ := List.exists_cons_of_ne_nil (charBytes_ne_nil d)
      rw [List.flatMap_cons, hb]
      exact List.nil_lt_cons _ _
  | rel hlt =>
      rw [List.flatMap_cons, List.flatMap_cons]
      exact charBytes_append_lt hlt _ _
  | cons _ ih =>
      rw [List.flatMap_cons, List.flatMap_cons]
      exact List.append_left_lt ih

/-- Texts compare as their bytes do. -/
theorem lt_iff_bytes_lt (s t : String) : s < t ↔ bytes s < bytes t := by
  have hmono : StrictMono (List.flatMap charBytes) := fun _ _ => flatMap_charBytes_lt
  rw [bytes_eq, bytes_eq, hmono.lt_iff_lt]
  exact String.lt_iff

end SyncLedger.Text
