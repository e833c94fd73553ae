import SyncLedger.Proofs.Json.Layer
import SyncLedger.Settings.Wrapped

/-!
# Entries beside wrapped values

When a document is read, the tables in it that carry the value they stand for are replaced by that
value. This happens to every field on its own, so a value that is put in before is found again
afterwards, as what it stands for. A table keeps its entries unless it is such a table itself.
-/

namespace SyncLedger.Json

variable {fs gs : List (String × Json)} {name : String} {j k : Json}

theorem unwrapFields?_cons (f : String × Json) :
    unwrapFields? (f :: fs) =
      (unwrap? f.2).bind fun j => (unwrapFields? fs).map ((f.1, j) :: ·) := by
  rw [unwrapFields?]

theorem unwrapFields?_cons_eq_some_iff {f : String × Json} :
    unwrapFields? (f :: fs) = some gs ↔
      ∃ j hs, unwrap? f.2 = some j ∧ unwrapFields? fs = some hs ∧ (f.1, j) :: hs = gs := by
  rw [unwrapFields?_cons, Option.bind_eq_some_iff]
  simp only [Option.map_eq_some_iff, exists_and_left]

theorem unwrap?_of_field? (h : unwrapFields? fs = some gs) (hj : field? name fs = some j) :
    ∃ k, unwrap? j = some k ∧ field? name gs = some k := by
  induction fs generalizing gs with
  | nil => cases hj
  | cons f fs ih =>
      obtain ⟨k, hs, hk, hfs, rfl⟩ := unwrapFields?_cons_eq_some_iff.mp h
      rw [field?_cons] at hj ⊢
      split_ifs at hj ⊢ with hname
      · obtain rfl := Option.some.inj hj
        exact ⟨k, hk, rfl⟩
      · exact ih hfs hj

theorem field?_eq_none_of_unwrap (h : unwrapFields? fs = some gs) (hnone : field? name fs = none) :
    field? name gs = none := by
  induction fs generalizing gs with
  | nil =>
      rw [unwrapFields?] at h
      obtain rfl := Option.some.inj h
      rfl
  | cons f fs ih =>
      obtain ⟨k, hs, -, hfs, rfl⟩ := unwrapFields?_cons_eq_some_iff.mp h
      rw [field?_cons] at hnone ⊢
      split_ifs at hnone ⊢ with hname
      exact ih hfs hnone

theorem unwrapFields?_insertField (h : unwrapFields? fs = some gs) (hj : unwrap? j = some k)
    (name : String) : unwrapFields? (insertField name j fs) = some (insertField name k gs) := by
  induction fs generalizing gs with
  | nil =>
      rw [unwrapFields?] at h
      obtain rfl := Option.some.inj h
      exact unwrapFields?_cons_eq_some_iff.mpr ⟨k, [], hj, by rw [unwrapFields?], rfl⟩
  | cons f fs ih =>
      obtain ⟨l, hs, hl, hfs, rfl⟩ := unwrapFields?_cons_eq_some_iff.mp h
      rw [insertField, insertField]
      split_ifs
      · exact unwrapFields?_cons_eq_some_iff.mpr ⟨k, _, hj, h, rfl⟩
      · exact unwrapFields?_cons_eq_some_iff.mpr ⟨k, hs, hj, hfs, rfl⟩
      · exact unwrapFields?_cons_eq_some_iff.mpr ⟨l, _, hl, ih hfs, rfl⟩

theorem unwrap?_obj_eq_some_iff :
    unwrap? (.obj fs) = some j ↔ ∃ gs, unwrapFields? fs = some gs ∧ unwrapped? gs = some j := by
  rw [unwrap?, Option.bind_eq_some_iff]

/-- The fields of a table that stands for itself. -/
def IsPlain (fs : List (String × Json)) : Prop :=
  field? reservedKey fs = none ∧ field? wrappedKey fs = none

theorem unwrapped?_of_isPlain (h : IsPlain fs) : unwrapped? fs = some (.obj fs) := by
  rw [unwrapped?, h.1, h.2]
  rfl

theorem IsPlain.insertField (h : IsPlain fs) {key : String} (hreserved : key ≠ reservedKey)
    (hwrapped : key ≠ wrappedKey) (j : Json) : IsPlain (insertField key j fs) := by
  rw [IsPlain, field?_insertField, field?_insertField, if_neg hreserved.symm,
    if_neg hwrapped.symm]
  exact h

/-- A table that does not carry the value that it stands for keeps its entries. -/
theorem unwrapFields?_table (h : unwrapFields? fs = some gs) (htable : IsTable name fs)
    (hown : field? wrappedKey (table name fs) = none) :
    unwrapFields? (table name fs) = some (table name gs) ∧ IsTable name gs ∧
      IsPlain (table name gs) := by
  rcases htable.cases with hnone | hsome
  · have hgs := field?_eq_none_of_unwrap h hnone
    rw [table_of_none hnone, table_of_none hgs, IsTable, hgs, unwrapFields?]
    exact ⟨rfl, nofun, rfl, rfl⟩
  · obtain ⟨k, hk, hgs⟩ := unwrap?_of_field? h hsome
    obtain ⟨es, hes, hstands⟩ := unwrap?_obj_eq_some_iff.mp hk
    have hnone := field?_eq_none_of_unwrap hes hown
    rw [unwrapped?] at hstands
    split at hstands
    · cases hstands
    · -- with neither of the two keys, it stands for itself
      rename_i hreserved
      rw [hnone, Option.getD_none] at hstands
      obtain rfl := Option.some.inj hstands
      rw [table_of_field? hgs]
      exact ⟨hes, fun j hj => ⟨es, Option.some.inj (hj.symm.trans hgs)⟩, hreserved, hnone⟩

/-- Putting an entry in and reading the document may change places. -/
theorem unwrapFields?_setValueAt (h : unwrapFields? fs = some gs) (htable : IsTable name fs)
    (hown : field? wrappedKey (table name fs) = none) (hj : unwrap? j = some k) {key : String}
    (hreserved : key ≠ reservedKey) (hwrapped : key ≠ wrappedKey) :
    unwrapFields? (setValueAt name key j fs) = some (setValueAt name key k gs) := by
  obtain ⟨hentries, -, hplain⟩ := unwrapFields?_table h htable hown
  refine unwrapFields?_insertField h ?_ name
  exact unwrap?_obj_eq_some_iff.mpr ⟨_, unwrapFields?_insertField hentries hj key,
    unwrapped?_of_isPlain (hplain.insertField hreserved hwrapped k)⟩

end SyncLedger.Json
