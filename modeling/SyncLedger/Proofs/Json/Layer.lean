import Mathlib.Data.Option.Basic
import Mathlib.Data.String.Basic
import Mathlib.Tactic.SplitIfs
import SyncLedger.Json.Merge

/-!
# Layers

Settings are looked up in two steps, by the name of a table and by the name of an entry in it. A
layer is an object that holds nothing but tables, and its names ascend everywhere. What is found
in two layers, one on top of the other, is said here for one name and then for an entry: it is
what the upper layer has there, or else what the one below has. If both have an object it is a
third one, which is why values are only compared up to `Alike`.
-/

namespace SyncLedger.Json

/-! ## Names that ascend -/

def Sorted (fs : List (String × Json)) : Prop := fs.Pairwise fun f g => f.1 < g.1

section Sorted

variable {fs : List (String × Json)} {name : String}

theorem mem_insertField {j : Json} {f : String × Json} (h : f ∈ insertField name j fs) :
    f = (name, j) ∨ f ∈ fs := by
  induction fs with
  | nil => exact .inl (List.mem_singleton.mp h)
  | cons g gs ih =>
      rw [insertField] at h
      split_ifs at h
      · exact List.mem_cons.mp h
      · exact (List.mem_cons.mp h).imp_right (List.mem_cons_of_mem g)
      · rcases List.mem_cons.mp h with rfl | h
        · exact .inr List.mem_cons_self
        · exact (ih h).imp_right (List.mem_cons_of_mem g)

theorem sorted_insertField (h : Sorted fs) (name : String) (j : Json) :
    Sorted (insertField name j fs) := by
  induction fs with
  | nil => exact List.pairwise_singleton _ _
  | cons g gs ih =>
      obtain ⟨hg, hgs⟩ := List.pairwise_cons.mp h
      rw [insertField]
      split_ifs with hlt heq
      · refine List.pairwise_cons.mpr ⟨fun f hf => ?_, h⟩
        rcases List.mem_cons.mp hf with rfl | hf
        · exact hlt
        · exact lt_trans hlt (hg f hf)
      · exact List.pairwise_cons.mpr ⟨fun f hf => heq ▸ hg f hf, hgs⟩
      · refine List.pairwise_cons.mpr ⟨fun f hf => ?_, ih hgs⟩
        rcases mem_insertField hf with rfl | hf
        · exact lt_of_le_of_ne (le_of_not_gt hlt) heq
        · exact hg f hf

theorem field?_eq_none (h : ∀ f ∈ fs, f.1 ≠ name) : field? name fs = none := by
  induction fs with
  | nil => rfl
  | cons f fs ih =>
      obtain ⟨hf, hfs⟩ := List.forall_mem_cons.mp h
      rw [field?_cons, if_neg hf, ih hfs]

end Sorted

/-! ## One value over another -/

/-- A value on top of what is below it, if anything is. -/
def overlay (below : Option Json) (top : Json) : Json :=
  match below with
  | some j => merge j top
  | none => top

/-- Two values are the same, unless both are objects. -/
def Alike (x y : Json) : Prop := x = y ∨ ∃ fs gs, x = .obj fs ∧ y = .obj gs

theorem alike_refl (x : Json) : Alike x x := .inl rfl

theorem Alike.trans {x y z : Json} (hxy : Alike x y) (hyz : Alike y z) : Alike x z := by
  rcases hxy with rfl | ⟨fs, gs, rfl, rfl⟩
  · exact hyz
  · rcases hyz with rfl | ⟨_, hs, -, rfl⟩
    · exact .inr ⟨fs, gs, rfl, rfl⟩
    · exact .inr ⟨fs, hs, rfl, rfl⟩

theorem alike_overlay (below : Option Json) (top : Json) : Alike (overlay below top) top := by
  cases below with
  | none => exact alike_refl top
  | some j =>
      cases top with
      | obj gs =>
          cases j with
          | obj fs => exact .inr ⟨mergeFields fs gs, gs, merge_obj fs gs, rfl⟩
          | null | bool | int | float | str | char | arr => exact .inl (by simp [overlay, merge])
      | null | bool | int | float | str | char | arr => exact .inl (by simp [overlay, merge])

theorem mergeFields_cons (fs : List (String × Json)) (g : String × Json)
    (gs : List (String × Json)) :
    mergeFields fs (g :: gs) =
      mergeFields (insertField g.1 (overlay (field? g.1 fs) g.2) fs) gs := by
  rw [mergeFields]
  cases field? g.1 fs with
  | none => rfl
  | some j => rfl

/-- A name stands for what the upper layer has over what the lower one has. -/
theorem field?_mergeFields {gs : List (String × Json)} (h : Sorted gs)
    (fs : List (String × Json)) (name : String) :
    field? name (mergeFields fs gs) =
      ((field? name gs).map (overlay (field? name fs))).or (field? name fs) := by
  induction gs generalizing fs with
  | nil => simp
  | cons g gs ih =>
      obtain ⟨hg, hgs⟩ := List.pairwise_cons.mp h
      rw [mergeFields_cons, ih hgs, field?_insertField, field?_cons]
      by_cases hname : name = g.1
      · obtain rfl := hname
        have hnone : field? g.1 gs = none := field?_eq_none fun f hf => (ne_of_lt (hg f hf)).symm
        rw [hnone, if_pos rfl, if_pos rfl]
        rfl
      · rw [if_neg hname, if_neg (Ne.symm hname)]

/-! ## Entries of tables -/

/-- The entries of the table with a name; there are none if there is no such table. -/
def table (name : String) (fs : List (String × Json)) : List (String × Json) :=
  match field? name fs with
  | some (.obj gs) => gs
  | _ => []

def valueAt? (name key : String) (fs : List (String × Json)) : Option Json :=
  field? key (table name fs)

/-- Gives an entry a value, in a table of its own if there is none with the name. -/
def setValueAt (name key : String) (j : Json) (fs : List (String × Json)) :
    List (String × Json) :=
  insertField name (.obj (insertField key j (table name fs))) fs

/-- What the name stands for, if anything, is a table. -/
def IsTable (name : String) (fs : List (String × Json)) : Prop :=
  ∀ j, field? name fs = some j → ∃ gs, j = .obj gs

section Entries

variable {fs gs : List (String × Json)} {name key : String}

theorem table_of_field? (h : field? name fs = some (.obj gs)) : table name fs = gs := by
  rw [table, h]

theorem table_of_none (h : field? name fs = none) : table name fs = [] := by
  rw [table, h]

theorem IsTable.cases (h : IsTable name fs) :
    field? name fs = none ∨ field? name fs = some (.obj (table name fs)) := by
  cases hfield : field? name fs with
  | none => exact .inl rfl
  | some j =>
      obtain ⟨gs, rfl⟩ := h j hfield
      exact .inr (by rw [table_of_field? hfield])

theorem IsTable.field?_of_valueAt? (h : IsTable name fs) {j : Json}
    (hj : valueAt? name key fs = some j) : field? name fs = some (.obj (table name fs)) := by
  rcases h.cases with hnone | hsome
  · rw [valueAt?, table_of_none hnone] at hj
    cases hj
  · exact hsome

theorem field?_setValueAt (j : Json) (other : String) :
    field? other (setValueAt name key j fs) =
      if other = name then some (.obj (insertField key j (table name fs)))
      else field? other fs :=
  field?_insertField name _ fs other

theorem table_setValueAt (j : Json) (other : String) :
    table other (setValueAt name key j fs) =
      if other = name then insertField key j (table name fs) else table other fs := by
  rw [table, field?_setValueAt]
  split_ifs
  · rfl
  · rfl

theorem valueAt?_setValueAt (j : Json) (other key' : String) :
    valueAt? other key' (setValueAt name key j fs) =
      if other = name ∧ key' = key then some j else valueAt? other key' fs := by
  rw [valueAt?, table_setValueAt]
  by_cases hname : other = name
  · obtain rfl := hname
    rw [if_pos rfl, field?_insertField]
    simp [valueAt?]
  · simp [hname, valueAt?]

theorem IsTable.setValueAt {other : String} (h : IsTable other fs) (name key : String) (j : Json) :
    IsTable other (setValueAt name key j fs) := by
  intro k hk
  rw [field?_setValueAt] at hk
  split_ifs at hk
  · exact ⟨_, (Option.some.inj hk).symm⟩
  · exact h k hk

end Entries

/-! ## Layers of tables -/

/-- There are only tables, and the names ascend. -/
structure Layer (fs : List (String × Json)) : Prop where
  sorted : Sorted fs
  tables : ∀ name, IsTable name fs
  entries : ∀ name, Sorted (table name fs)

theorem layer_nil : Layer [] where
  sorted := .nil
  tables _ _ h := by cases h
  entries _ := .nil

section Layer

variable {fs gs : List (String × Json)} {name : String}

theorem Layer.setValueAt (h : Layer fs) (name key : String) (j : Json) :
    Layer (setValueAt name key j fs) where
  sorted := sorted_insertField h.sorted name _
  tables other := (h.tables other).setValueAt name key j
  entries other := by
    rw [table_setValueAt]
    split_ifs
    · exact sorted_insertField (h.entries name) key j
    · exact h.entries other

/-- A single entry on top of a layer. -/
theorem merge_nest (h : IsTable name fs) (key : String) (j : Json) :
    merge (.obj fs) (nest [name, key] j) =
      .obj (setValueAt name key (overlay (valueAt? name key fs) j) fs) := by
  have hsingle : mergeFields fs [(name, .obj [(key, j)])] =
      insertField name (overlay (field? name fs) (.obj [(key, j)])) fs := by
    rw [mergeFields_cons, mergeFields_nil]
  rw [nest_cons, nest_cons, nest_nil, merge_obj, hsingle, setValueAt, valueAt?]
  congr 2
  rcases h.cases with hnone | hsome
  · rw [hnone, table_of_none hnone]
    rfl
  · rw [hsome, overlay, merge_obj, mergeFields_cons, mergeFields_nil]

theorem table_mergeFields (hbelow : IsTable name fs) (h : Layer gs) :
    IsTable name (mergeFields fs gs) ∧ ∀ key, field? key (table name (mergeFields fs gs)) =
      field? key (mergeFields (table name fs) (table name gs)) := by
  have hfield := field?_mergeFields h.sorted fs name
  rcases (h.tables name).cases with hnone | hsome
  · rw [hnone, Option.map_none, Option.none_or] at hfield
    refine ⟨fun j hj => hbelow j (hfield ▸ hj), fun key => ?_⟩
    rw [table, hfield, table_of_none hnone, mergeFields_nil, table]
  · rw [hsome, Option.map_some, Option.some_or] at hfield
    rcases hbelow.cases with hfs | hfs
    · -- only the upper layer has the table
      rw [hfs] at hfield
      refine ⟨fun j hj => ⟨_, Option.some.inj (hj.symm.trans hfield)⟩, fun key => ?_⟩
      rw [table_of_field? hfield, table_of_none hfs, field?_mergeFields (h.entries name)]
      cases field? key (table name gs) with
      | none => rfl
      | some j => rfl
    · -- both have it, and the two tables are merged
      rw [hfs, overlay, merge_obj] at hfield
      refine ⟨fun j hj => ⟨_, Option.some.inj (hj.symm.trans hfield)⟩, fun key => ?_⟩
      rw [table_of_field? hfield]

/-- An entry is what the upper layer has over what the lower one has. -/
theorem valueAt?_mergeFields (hbelow : IsTable name fs) (h : Layer gs) (key : String) :
    valueAt? name key (mergeFields fs gs) =
      ((valueAt? name key gs).map (overlay (valueAt? name key fs))).or (valueAt? name key fs) := by
  rw [valueAt?, (table_mergeFields hbelow h).2, field?_mergeFields (h.entries name)]
  rfl

end Layer

end SyncLedger.Json
