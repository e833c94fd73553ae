import Mathlib.Data.List.Induction
import SyncLedger.Proofs.Settings.Setting
import SyncLedger.Proofs.Text.Blank

/-!
# Variables for settings

The name of a variable for a setting is made of the names of its table and of its entry, in either
case. The values of such variables are a layer for what is in a file. They can also be put into
the file, one after another. Either way an entry has the value of the last variable for it, up to
objects, and what no variable is for is left as it was.
-/

namespace SyncLedger

open Json

/-- The name of a variable for a setting, in lower case. -/
def Setting.variable (s : Setting) : List Char :=
  "replication_config_".toList ++ s.table.toList ++ "__".toList ++ s.key.toList

/-- A variable for a setting. -/
structure SettingVariable where
  setting : Setting
  name : String
  text : String
  isName : name.toList.map Char.toLower = setting.variable

namespace SettingVariable

def value (v : SettingVariable) : Json := Variable.value v.text

theorem trim_name (v : SettingVariable) : Text.trim v.name.toList = v.name.toList := by
  -- the name of a setting has a letter at both ends, and so has one in the other case
  have hends : ∀ s : Setting, s.variable.head?.any Text.isBlank = false ∧
      s.variable.getLast?.any Text.isBlank = false := by
    intro s
    cases s <;> decide +kernel
  obtain ⟨hfront, hback⟩ := hends v.setting
  rw [← v.isName, List.head?_map, Option.any_eq_false] at hfront
  rw [← v.isName, List.getLast?_map, Option.any_eq_false] at hback
  refine Text.trim_eq_self (fun c hc => ?_) fun c hc => ?_
  · exact Text.isBlank_eq_false_of_toLower (hfront c.toLower (Option.mem_map_of_mem _ hc))
  · exact Text.isBlank_eq_false_of_toLower (hback c.toLower (Option.mem_map_of_mem _ hc))

/-- The name of a variable leads to the entry of its setting. -/
theorem path?_name (v : SettingVariable) :
    Variable.path? v.name = some [v.setting.table, v.setting.key] := by
  rw [Variable.path?, v.trim_name, v.isName]
  cases v.setting <;> decide +kernel

/-- The names and the texts of variables. -/
def environment (vs : List SettingVariable) : List (String × String) :=
  vs.map fun v => (v.name, v.text)

/-- The variable is for the entry of a table with a key. -/
def IsFor (v : SettingVariable) (name key : String) : Prop :=
  name = v.setting.table ∧ key = v.setting.key

instance (v : SettingVariable) (name key : String) : Decidable (v.IsFor name key) :=
  inferInstanceAs (Decidable (_ ∧ _))

/-- The value of the last variable for an entry. -/
def given? (vs : List SettingVariable) (name key : String) : Option Json :=
  ((vs.filter fun v => v.IsFor name key).getLast?).map value

/-- The values of variables, of which a later one counts more. -/
def layer (vs : List SettingVariable) : List (String × Json) :=
  vs.foldl (fun fs v => setValueAt v.setting.table v.setting.key
    (overlay (valueAt? v.setting.table v.setting.key fs) v.value) fs) []

/-- A file into which the values of variables are put, one after another. -/
def edited (vs : List SettingVariable) (fs : List (String × Json)) : List (String × Json) :=
  vs.foldl (fun fs v => setValueAt v.setting.table v.setting.key v.value fs) fs

variable {vs : List SettingVariable} {v : SettingVariable} {fs : List (String × Json)}
  {name : String}

theorem given?_append_singleton (name key : String) :
    given? (vs ++ [v]) name key =
      if v.IsFor name key then some v.value else given? vs name key := by
  rw [given?, List.filter_append, List.getLast?_append, given?]
  by_cases h : v.IsFor name key
  · simp [h]
  · simp [h]

theorem isFor_setting_iff (v : SettingVariable) (s : Setting) :
    v.IsFor s.table s.key ↔ v.setting = s := by
  constructor
  · exact fun h => Setting.eq_of_key h.2.symm
  · rintro rfl
    exact ⟨rfl, rfl⟩

theorem given?_setting (vs : List SettingVariable) (s : Setting) :
    given? vs s.table s.key =
      ((vs.filter fun v => v.setting = s).getLast?).map value := by
  simp only [given?, isFor_setting_iff]

theorem exists_given?_of_mem (hv : v ∈ vs) :
    ∃ j, given? vs v.setting.table v.setting.key = some j := by
  have hmem : v ∈ vs.filter fun w => w.IsFor v.setting.table v.setting.key :=
    List.mem_filter.mpr ⟨hv, decide_eq_true ⟨rfl, rfl⟩⟩
  rw [given?, List.getLast?_eq_some_getLast (List.ne_nil_of_mem hmem)]
  exact ⟨_, rfl⟩

theorem valueAt?_setValueAt_of_variable (j : Json) (name key : String) :
    valueAt? name key (setValueAt v.setting.table v.setting.key j fs) =
      if v.IsFor name key then some j else valueAt? name key fs :=
  valueAt?_setValueAt j name key

theorem layer_append_singleton : layer (vs ++ [v]) = setValueAt v.setting.table v.setting.key
    (overlay (valueAt? v.setting.table v.setting.key (layer vs)) v.value) (layer vs) := by
  rw [layer, List.foldl_append]
  rfl

theorem edited_append_singleton : edited (vs ++ [v]) fs =
    setValueAt v.setting.table v.setting.key v.value (edited vs fs) := by
  rw [edited, List.foldl_append]
  rfl

/-! ## The layer of variables -/

theorem layer_layer (vs : List SettingVariable) : Layer (layer vs) := by
  induction vs using List.reverseRecOn with
  | nil => exact layer_nil
  | append_singleton vs v ih =>
      rw [layer_append_singleton]
      exact ih.setValueAt _ _ _

theorem tree_environment (vs : List SettingVariable) :
    Variable.tree (environment vs) = .obj (layer vs) := by
  induction vs using List.reverseRecOn with
  | nil => rfl
  | append_singleton vs v ih =>
      -- the last variable is merged into the layer of those before it
      rw [environment, List.map_append, Variable.tree, List.foldl_append]
      change Variable.apply (Variable.tree (environment vs)) v.name v.text = _
      rw [ih, Variable.apply, v.path?_name, layer_append_singleton]
      exact merge_nest ((layer_layer vs).tables _) _ _

theorem field?_layer (h : ∀ v ∈ vs, v.setting.table ≠ name) : field? name (layer vs) = none := by
  induction vs using List.reverseRecOn with
  | nil => rfl
  | append_singleton vs v ih =>
      obtain ⟨hvs, hv⟩ := List.forall_mem_append.mp h
      rw [layer_append_singleton, field?_setValueAt,
        if_neg (hv v (List.mem_singleton_self v)).symm, ih hvs]

theorem valueAt?_layer (vs : List SettingVariable) (name key : String) :
    Option.Rel Alike (valueAt? name key (layer vs)) (given? vs name key) := by
  induction vs using List.reverseRecOn with
  | nil => exact .none
  | append_singleton vs v ih =>
      rw [layer_append_singleton, valueAt?_setValueAt_of_variable, given?_append_singleton]
      split_ifs
      · exact .some (alike_overlay _ _)
      · exact ih

/-! ## The edited file -/

theorem field?_edited (h : ∀ v ∈ vs, v.setting.table ≠ name) :
    field? name (edited vs fs) = field? name fs := by
  induction vs using List.reverseRecOn with
  | nil => rfl
  | append_singleton vs v ih =>
      obtain ⟨hvs, hv⟩ := List.forall_mem_append.mp h
      rw [edited_append_singleton, field?_setValueAt,
        if_neg (hv v (List.mem_singleton_self v)).symm, ih hvs]

theorem isTable_edited (vs : List SettingVariable) (h : IsTable name fs) :
    IsTable name (edited vs fs) := by
  induction vs using List.reverseRecOn with
  | nil => exact h
  | append_singleton vs v ih =>
      rw [edited_append_singleton]
      exact ih.setValueAt _ _ _

theorem valueAt?_edited (vs : List SettingVariable) (fs : List (String × Json))
    (name key : String) :
    valueAt? name key (edited vs fs) = (given? vs name key).or (valueAt? name key fs) := by
  induction vs using List.reverseRecOn with
  | nil => rfl
  | append_singleton vs v ih =>
      rw [edited_append_singleton, valueAt?_setValueAt_of_variable, given?_append_singleton]
      split_ifs
      · rfl
      · exact ih

end SettingVariable

end SyncLedger
