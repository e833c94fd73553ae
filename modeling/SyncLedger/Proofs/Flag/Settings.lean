import Mathlib.Data.List.Perm.Basic
import SyncLedger.Proofs.Flag.Resolution
import SyncLedger.Settings.Flags

/-!
# What becomes of flag settings

Settings are turned into rules with some overrides left out. The comparison is with the rules
that leave nothing out: they hold every default and every override of the settings, and no flag
has another value by them in any context. What is left out is told from what is kept by the
identifiers alone, and both stand in the order of the settings.
-/

namespace SyncLedger

namespace FlagSettings

/-- The defaults that settings set, and then some overrides. -/
def givenWith (s : FlagSettings) (os : List FlagOverride) : List FlagRule :=
  (Flag.all.filterMap fun flag => (s.default? flag).map (FlagRule.standard flag)) ++
    os.map FlagRule.exception

/-- Everything that settings give: each default that they set, and every override. -/
def given (s : FlagSettings) : List FlagRule := s.givenWith s.overrides

theorem isBound_eq_false_iff {o : FlagOverride} :
    isBound o = false ↔ o.workspaceId = none ∧ o.connectionId = none := by
  simp [isBound, FlagOverride.namesWorkspace, FlagOverride.namesConnection]

/-- The overrides of some kind are those that name something. -/
theorem isSome_kind?_exception (o : FlagOverride) :
    (FlagRule.exception o).kind?.isSome = isBound o := by
  rw [FlagRule.kind?, isBound]
  cases o.namesConnection <;> cases o.namesWorkspace <;> rfl

theorem defaults_eq (s : FlagSettings) : s.defaults = FlagRules.ofList (s.givenWith []) := by
  rw [FlagRules.ofList, givenWith, List.map_nil, List.append_nil, List.foldl_filterMap, defaults]
  congr 1
  funext rules flag
  cases s.default? flag <;> rfl

theorem rules_eq (s : FlagSettings) :
    s.rules = FlagRules.ofList (s.givenWith (s.overrides.filter isBound)) := by
  have hdefaults := s.defaults_eq
  rw [FlagRules.ofList, givenWith, List.map_nil, List.append_nil] at hdefaults
  rw [FlagRules.ofList, givenWith, List.foldl_append, ← hdefaults, List.foldl_map, rules]
  rfl

theorem overrides_givenWith (s : FlagSettings) (os : List FlagOverride) :
    (FlagRules.ofList (s.givenWith os)).overrides = os := by
  rw [FlagRules.overrides_ofList, givenWith, List.filterMap_append, List.filterMap_filterMap,
    List.filterMap_map]
  have hnone : (Flag.all.filterMap fun flag =>
      ((s.default? flag).map (FlagRule.standard flag)).bind FlagRule.override?) = [] := by
    rw [List.filterMap_eq_nil_iff]
    intro flag _
    cases s.default? flag <;> rfl
  rw [hnone, List.nil_append]
  exact List.filterMap_some

theorem effective_givenWith (s : FlagSettings) (os : List FlagOverride) :
    FlagRules.effective (s.givenWith (os.filter isBound)) =
      FlagRules.effective (s.givenWith os) := by
  rw [givenWith, givenWith, FlagRules.effective, FlagRules.effective, List.filter_append,
    List.filter_append, List.filter_map, List.filter_map, List.filter_filter]
  congr 2
  refine List.filter_congr fun o _ => ?_
  rw [Function.comp_apply, isSome_kind?_exception, Bool.and_self]

/-- The rules that settings stand for give every flag the value that it has when no override is
left out. The overrides that are left out are those that name neither a workspace nor a
connection; there is one warning about each of them, in their order, and the others keep
theirs. -/
theorem unbound_overrides_left_out (s : FlagSettings) :
    (∀ flag context,
        s.rules.resolve flag context = (FlagRules.ofList s.given).resolve flag context) ∧
      ∃ dropped, s.warnings = dropped.map unbound ∧
        (s.rules.overrides ++ dropped).Perm s.overrides ∧
        s.rules.overrides.Sublist s.overrides ∧ dropped.Sublist s.overrides ∧
        (∀ o ∈ s.rules.overrides, ¬ (o.workspaceId = none ∧ o.connectionId = none)) ∧
        ∀ o ∈ dropped, o.workspaceId = none ∧ o.connectionId = none := by
  have hkept : s.rules.overrides = s.overrides.filter isBound := by
    rw [rules_eq, overrides_givenWith]
  constructor
  · intro flag context
    have horder := FlagRules.sameOrder_of_effective (s.effective_givenWith s.overrides)
    rw [rules_eq, given, FlagRules.resolve_congr horder]
  · refine ⟨s.overrides.filter fun o => !isBound o, rfl, ?_, ?_, List.filter_sublist, ?_, ?_⟩
    · rw [hkept]
      exact List.filter_append_perm isBound s.overrides
    · rw [hkept]
      exact List.filter_sublist
    · intro o ho hunbound
      rw [hkept, List.mem_filter, isBound_eq_false_iff.mpr hunbound] at ho
      cases ho.2
    · intro o ho
      rw [List.mem_filter, Bool.not_eq_true'] at ho
      exact isBound_eq_false_iff.mp ho.2

/-- Overrides of both flags, two of which name nothing. -/
def mixed : FlagSettings where
  processRateLimitedMessages := some true
  failSyncOnDestinationTimeout := none
  overrides :=
    [⟨.processRateLimitedMessages, none, none, false⟩,
      ⟨.failSyncOnDestinationTimeout, some (.ofNat 1), none, true⟩,
      ⟨.failSyncOnDestinationTimeout, none, none, false⟩,
      ⟨.processRateLimitedMessages, none, some (.ofNat 2), false⟩]

theorem unbound_overrides_left_out_mixed :
    let bound := ⟨.processRateLimitedMessages, none, some (.ofNat 2), false⟩
    let free := ⟨.failSyncOnDestinationTimeout, none, none, false⟩
    bound ∈ mixed.rules.overrides ∧ ¬ (bound.workspaceId = none ∧ bound.connectionId = none) ∧
      free ∈ mixed.overrides ∧ free ∉ mixed.rules.overrides ∧ unbound free ∈ mixed.warnings ∧
      (free.workspaceId = none ∧ free.connectionId = none) ∧ mixed.warnings.length = 2 ∧
      mixed.rules.resolve .processRateLimitedMessages ⟨.ofNat 1, .ofNat 3⟩ =
        (FlagRules.ofList mixed.given).resolve .processRateLimitedMessages
          ⟨.ofNat 1, .ofNat 3⟩ := by
  intro bound free
  obtain ⟨hresolve, dropped, hwarnings, hall, -, -, hbound, hfree⟩ :=
    unbound_overrides_left_out mixed
  have hmem : bound ∈ mixed.rules.overrides := by decide
  have hgiven : free ∈ mixed.overrides := by decide
  have hleft : free ∉ mixed.rules.overrides := by decide
  have hdropped : free ∈ dropped :=
    (List.mem_append.mp (hall.mem_iff.mpr hgiven)).resolve_left hleft
  have hwarned : unbound free ∈ mixed.warnings := hwarnings ▸ List.mem_map_of_mem hdropped
  exact ⟨hmem, hbound bound hmem, hgiven, hleft, hwarned, hfree free hdropped, by decide,
    hresolve _ _⟩

end FlagSettings

end SyncLedger
