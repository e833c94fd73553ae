import SyncLedger.Proofs.Json.Equality
import SyncLedger.Proofs.Settings.Variable
import SyncLedger.Proofs.Settings.Wrapped

/-!
# Variables as edits of the file

To set variables beside a file is to put their values into the file. The values of variables are
merged into what a file stands for, and an edit is made before it is known what the file stands
for, so the two only agree where that is the same: `Fits` says that no value is a table in place
of another value, nor any table that an edit is made in.
-/

namespace SyncLedger

open Json

/-! ## Loading -/

namespace SettingsSource

/-- What is loaded from a document, without any variables. -/
def loadDocument (doc : Json) : Except LoadError SettingsFile :=
  match unwrapDocument? doc with
  | none => .error .malformed
  | some tree =>
    match SettingsFile.decode .settings tree with
    | .ok f => .ok f
    | .error e => .error (.invalid e)

variable {text : String} {ds fs : List (String × Json)}

theorem toOption_load_eq_some_iff {s : SettingsSource} {f : SettingsFile} :
    s.load.toOption = some f ↔
      ∃ tree, s.tree? = some tree ∧ SettingsFile.decode .settings tree = .ok f := by
  rw [load]
  cases s.tree? with
  | none => simp [Except.toOption]
  | some tree => cases hdecode : SettingsFile.decode .settings tree with
    | error e | ok g => simp [Except.toOption, hdecode]

theorem toOption_loadDocument_eq_some_iff {doc : Json} {f : SettingsFile} :
    (loadDocument doc).toOption = some f ↔
      ∃ tree, unwrapDocument? doc = some tree ∧ SettingsFile.decode .settings tree = .ok f := by
  rw [loadDocument]
  cases unwrapDocument? doc with
  | none => simp [Except.toOption]
  | some tree => cases hdecode : SettingsFile.decode .settings tree with
    | error e | ok g => simp [Except.toOption, hdecode]

theorem tree?_of_fields (hparse : Toml.parse? text = some (.obj ds))
    (hread : unwrapFields? ds = some fs) (vs : List SettingVariable) :
    tree? ⟨some text, SettingVariable.environment vs⟩ =
      some (.obj (mergeFields fs (SettingVariable.layer vs))) := by
  rw [tree?, fileTree?]
  simp only [hparse, Option.bind_some, unwrapDocument?, hread, Option.map_some]
  rw [SettingVariable.tree_environment, merge_obj]

/-- Without variables, what is loaded from a file is what is loaded from its document. -/
theorem load_eq_loadDocument (hparse : Toml.parse? text = some (.obj ds)) :
    load ⟨some text, []⟩ = loadDocument (.obj ds) := by
  rw [load, loadDocument, unwrapDocument?]
  cases hread : unwrapFields? ds with
  | none =>
      have hnone : tree? ⟨some text, []⟩ = none := by
        rw [tree?, fileTree?]
        simp only [hparse, Option.bind_some, unwrapDocument?, hread, Option.map_none]
      rw [hnone]
      rfl
  | some fs =>
      have htree := tree?_of_fields hparse hread []
      rw [SettingVariable.environment, List.map_nil] at htree
      rw [htree, SettingVariable.layer, List.foldl_nil, mergeFields_nil]
      rfl

end SettingsSource

namespace SettingVariable

/-- Nothing that variables have to do with in a file stands for something else. -/
structure Fits (vs : List SettingVariable) (ds : List (String × Json)) : Prop where
  tables : ∀ v ∈ vs, IsTable v.setting.table ds
  own : ∀ v ∈ vs, field? wrappedKey (table v.setting.table ds) = none
  values : ∀ v ∈ vs, unwrap? v.value = some v.value

variable {vs : List SettingVariable} {ds fs : List (String × Json)}

theorem key_ne (s : Setting) : s.key ≠ reservedKey ∧ s.key ≠ wrappedKey := by
  cases s <;> decide

theorem valueAt?_wrappedKey_edited (name : String) :
    valueAt? name wrappedKey (edited vs ds) = valueAt? name wrappedKey ds := by
  have hnone : vs.filter (fun v => v.IsFor name wrappedKey) = [] := by
    rw [List.filter_eq_nil_iff]
    intro v _ hfor
    exact (key_ne v.setting).2 (of_decide_eq_true hfor).2.symm
  rw [valueAt?_edited, given?, hnone]
  rfl

/-- A document is edited, and then it is read; or the other way round. -/
theorem unwrapFields?_edited (hfits : Fits vs ds) (hread : unwrapFields? ds = some fs) :
    unwrapFields? (edited vs ds) = some (edited vs fs) := by
  induction vs using List.reverseRecOn with
  | nil => exact hread
  | append_singleton vs v ih =>
      obtain ⟨htables, htable⟩ := List.forall_mem_append.mp hfits.tables
      obtain ⟨howns, hown⟩ := List.forall_mem_append.mp hfits.own
      obtain ⟨hvalues, hvalue⟩ := List.forall_mem_append.mp hfits.values
      have hv := List.mem_singleton_self v
      obtain ⟨hreserved, hwrapped⟩ := key_ne v.setting
      rw [edited_append_singleton, edited_append_singleton]
      refine unwrapFields?_setValueAt (ih ⟨htables, howns, hvalues⟩)
        (isTable_edited vs (htable v hv)) ?_ (hvalue v hv) hreserved hwrapped
      exact (valueAt?_wrappedKey_edited _).trans (hown v hv)

/-- An entry has the value of a variable over what was there, or it is as it was. -/
theorem valueAt?_alike {name : String} (htable : IsTable name fs) (key : String) :
    Option.Rel Alike (valueAt? name key (mergeFields fs (layer vs)))
      (valueAt? name key (edited vs fs)) := by
  have hvariables := valueAt?_layer vs name key
  rw [valueAt?_mergeFields htable (layer_layer vs), valueAt?_edited]
  generalize valueAt? name key (layer vs) = x at hvariables
  generalize given? vs name key = y at hvariables
  cases hvariables with
  | some h => exact .some ((alike_overlay _ _).trans h)
  | none =>
      cases valueAt? name key fs with
      | none => exact .none
      | some j => exact .some (alike_refl j)

/-- Merging the values of variables and putting them in gives tables that are alike. -/
theorem sameTable_edited (htables : ∀ v ∈ vs, IsTable v.setting.table fs) (name : String) :
    Decode.SameTable name (mergeFields fs (layer vs)) (edited vs fs) := by
  have hlayer := layer_layer vs
  -- a table that no variable is for may be none; any other one is there once it is edited
  by_cases hnone : ∀ v ∈ vs, v.setting.table ≠ name
  · left
    rw [field?_mergeFields hlayer.sorted, field?_layer hnone, field?_edited hnone]
    rfl
  · obtain ⟨v, hv, rfl⟩ : ∃ v ∈ vs, v.setting.table = name := by simpa using hnone
    have htable := htables v hv
    obtain ⟨j, hj⟩ := exists_given?_of_mem hv
    have hedited : valueAt? v.setting.table v.setting.key (edited vs fs) = some j := by
      rw [valueAt?_edited, hj, Option.some_or]
    obtain ⟨k, hmerged⟩ : ∃ k, valueAt? v.setting.table v.setting.key
        (mergeFields fs (layer vs)) = some k := by
      have halike : Option.Rel Alike _ (valueAt? v.setting.table v.setting.key (edited vs fs)) :=
        valueAt?_alike htable v.setting.key
      rw [hedited] at halike
      generalize valueAt? _ _ (mergeFields fs (layer vs)) = x at halike
      cases halike with
      | some _ => exact ⟨_, rfl⟩
    exact .inr ⟨_, _, (table_mergeFields htable hlayer).1.field?_of_valueAt? hmerged,
      (isTable_edited vs htable).field?_of_valueAt? hedited, valueAt?_alike htable⟩

theorem Fits.isTable (hfits : Fits vs ds) (hread : unwrapFields? ds = some fs) :
    ∀ v ∈ vs, IsTable v.setting.table fs :=
  fun v hv => (unwrapFields?_table hread (hfits.tables v hv) (hfits.own v hv)).2.1

theorem toOption_load_eq_some_iff {text : String} (hparse : Toml.parse? text = some (.obj ds))
    (hread : unwrapFields? ds = some fs) (hfits : Fits vs ds) {f : SettingsFile} :
    (SettingsSource.load ⟨some text, environment vs⟩).toOption = some f ↔
      SettingsFile.decode .settings (.obj (edited vs fs)) = .ok f := by
  rw [SettingsSource.toOption_load_eq_some_iff, SettingsSource.tree?_of_fields hparse hread]
  refine Iff.trans ?_ (SettingsFile.decode_eq_ok_congr (sameTable_edited (hfits.isTable hread)))
  constructor
  · rintro ⟨tree, htree, hdecode⟩
    obtain rfl := Option.some.inj htree
    exact hdecode
  · exact fun hdecode => ⟨_, rfl, hdecode⟩

/-- What is read for a setting depends on the variables for it alone. -/
theorem value_eq_of_filter_eq {ws : List SettingVariable} {f g : SettingsFile} {s : Setting}
    (hvs : ∀ v ∈ vs, IsTable v.setting.table fs) (hws : ∀ v ∈ ws, IsTable v.setting.table fs)
    (hf : SettingsFile.decode .settings (.obj (edited vs fs)) = .ok f)
    (hg : SettingsFile.decode .settings (.obj (edited ws fs)) = .ok g)
    (hfilter : vs.filter (fun v => v.setting = s) = ws.filter fun v => v.setting = s) :
    s.value f = s.value g := by
  rw [SettingsFile.decode_eq_ok_iff] at hf hg
  by_cases hnone : ∀ v ∈ vs ++ ws, v.setting.table ≠ s.table
  · obtain ⟨hvs, hws⟩ := List.forall_mem_append.mp hnone
    exact SettingsFile.value_eq_of_field? hf hg
      ((field?_edited hvs).trans (field?_edited hws).symm)
  · obtain ⟨v, hv, hname⟩ : ∃ v ∈ vs ++ ws, v.setting.table = s.table := by simpa using hnone
    have htable : IsTable s.table fs := hname ▸ List.forall_mem_append.mpr ⟨hvs, hws⟩ v hv
    refine SettingsFile.value_eq_of_valueAt? hf hg (isTable_edited vs htable)
      (isTable_edited ws htable) ?_
    rw [valueAt?_edited, valueAt?_edited, given?_setting, given?_setting, hfilter]

/-- Loading a file with variables for settings is loading the file that has their values in it,
and no variable changes what another setting is. -/
theorem load_eq_load_edited {text : String} (hparse : Toml.parse? text = some (.obj ds))
    (hread : (unwrapDocument? (.obj ds)).isSome = true) (hfits : Fits vs ds) :
    let loaded := SettingsSource.load ⟨some text, environment vs⟩
    loaded.toOption = (SettingsSource.loadDocument (.obj (edited vs ds))).toOption ∧
      (∀ text', Toml.parse? text' = some (.obj (edited vs ds)) →
        loaded.toOption = (SettingsSource.load ⟨some text', []⟩).toOption) ∧
      ∀ ws, Fits ws ds → ∀ f g, loaded = .ok f →
        SettingsSource.load ⟨some text, environment ws⟩ = .ok g → ∀ s : Setting,
          vs.filter (fun v => v.setting = s) = ws.filter (fun v => v.setting = s) →
          s.value f = s.value g := by
  intro loaded
  obtain ⟨tree, htree⟩ := Option.isSome_iff_exists.mp hread
  obtain ⟨fs, hfs, -⟩ := Option.map_eq_some_iff.mp htree
  have hloaded : loaded.toOption =
      (SettingsSource.loadDocument (.obj (edited vs ds))).toOption := by
    refine Option.ext fun f => ?_
    rw [toOption_load_eq_some_iff hparse hfs hfits,
      SettingsSource.toOption_loadDocument_eq_some_iff, unwrapDocument?,
      unwrapFields?_edited hfits hfs]
    simp
  refine ⟨hloaded, fun text' hparse' => ?_, fun ws hws f g hf hg s hfilter => ?_⟩
  · rw [hloaded, SettingsSource.load_eq_loadDocument hparse']
  · refine value_eq_of_filter_eq (hfits.isTable hfs) (hws.isTable hfs) ?_ ?_ hfilter
    · exact (toOption_load_eq_some_iff hparse hfs hfits).mp (congrArg Except.toOption hf)
    · exact (toOption_load_eq_some_iff hparse hfs hws).mp (congrArg Except.toOption hg)

/-- The variable for the limit of a call. -/
def ofTimeout (text : String) : SettingVariable :=
  ⟨.callTimeout, "REPLICATION_CONFIG_DESTINATION_TIMEOUT__TIMEOUT_SECS", text, by decide⟩

/-- The variable for the address of the telemetry, written in its own way. -/
def ofMetricsUrl (text : String) : SettingVariable :=
  ⟨.metricsUrl, "Replication_Config_OpenTelemetry__Metrics_Url", text, by decide⟩

/-- One variable is for a table of the file, and the other one for a table that is not there. -/
theorem load_eq_load_edited_timeout :
    let vs := [ofTimeout "90", ofMetricsUrl "http://metrics"]
    let ds := [("destination_timeout", Json.obj [("timeout_secs", .int 30)])]
    let text := "[destination_timeout]\ntimeout_secs = 30\n"
    let text' :=
      "[destination_timeout]\ntimeout_secs = 90\n[opentelemetry]\nmetrics_url = 'http://metrics'\n"
    let loaded := SettingsSource.load ⟨some text, environment vs⟩
    Toml.parse? text = some (.obj ds) ∧ Fits vs ds ∧
      loaded.toOption = (SettingsSource.load ⟨some text', []⟩).toOption ∧
      loaded.toOption.map Setting.callTimeout.value = some (.seconds 90) := by
  intro vs ds text text' loaded
  have hparse : Toml.parse? text = some (.obj ds) := by decide +kernel
  have hfits : Fits vs ds := by
    refine ⟨List.forall_mem_cons.mpr ⟨?_, List.forall_mem_singleton.mpr ?_⟩,
      List.forall_mem_cons.mpr ⟨rfl, List.forall_mem_singleton.mpr rfl⟩,
      List.forall_mem_cons.mpr ⟨rfl, List.forall_mem_singleton.mpr rfl⟩⟩
    · exact fun j hj => ⟨_, (Option.some.inj hj).symm⟩
    · exact fun j hj => nomatch hj
  have hread : (unwrapDocument? (.obj ds)).isSome = true := by decide +kernel
  have hedited : Toml.parse? text' = some (.obj (edited vs ds)) := by decide +kernel
  exact ⟨hparse, hfits, (load_eq_load_edited hparse hread hfits).2.1 text' hedited,
    by decide +kernel⟩

/-- A table in place of a value is a table when a variable gives it, and the value when it stands
in the file. -/
theorem load_ne_load_edited :
    let vs := [ofTimeout "\x7b___figment_value_value=5\x7d"]
    let ds := [("destination_timeout", Json.obj [])]
    let text := "[destination_timeout]\n"
    let text' := "[destination_timeout]\ntimeout_secs = \x7b___figment_value_value = 5\x7d\n"
    Toml.parse? text = some (.obj ds) ∧ Toml.parse? text' = some (.obj (edited vs ds)) ∧
      (SettingsSource.load ⟨some text, environment vs⟩).toOption = none ∧
      (SettingsSource.load ⟨some text', []⟩).toOption.map Setting.callTimeout.value =
        some (.seconds 5) := by
  decide +kernel

end SettingVariable

end SyncLedger
