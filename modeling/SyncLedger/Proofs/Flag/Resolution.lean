import Mathlib.Data.List.Basic
import Mathlib.Data.List.Induction
import SyncLedger.Flag.Rules

/-!
# Which value of a flag counts

Rules are put together from defaults and overrides that are given one after another. What
becomes of a flag in a context is decided by one of them: `Decides` names it without a search,
by what was given before and after it. Only the order among rules of one flag and one kind
matters, and an override that names neither a workspace nor a connection is of no kind.
-/

namespace SyncLedger

/-- One thing that is given when rules are put together. -/
inductive FlagRule where
  | standard (flag : Flag) (value : Bool)
  | exception (o : FlagOverride)
deriving DecidableEq

namespace FlagRule

/-- What a rule can be for the flag that it is about. -/
inductive Kind where
  | connection
  | workspace
  | standard
deriving DecidableEq

def flag : FlagRule → Flag
  | .standard flag _ => flag
  | .exception o => o.flag

def value : FlagRule → Bool
  | .standard _ value => value
  | .exception o => o.value

/-- The kind of a rule: an override that names a connection may also name a workspace, and one
that names neither is of no kind. -/
def kind? : FlagRule → Option Kind
  | .standard _ _ => some .standard
  | .exception o =>
    if o.namesConnection then some .connection
    else if o.namesWorkspace then some .workspace
    else none

/-- An override of the flag that names the connection of the context, and no workspace but the
one of the context. -/
def isForConnection (flag : Flag) (context : FlagContext) : FlagRule → Bool
  | .standard _ _ => false
  | .exception o =>
    o.flag = flag && o.connectionId = some context.connectionId &&
      (o.workspaceId = none || o.workspaceId = some context.workspaceId)

/-- An override of the flag that names the workspace of the context and no connection. -/
def isForWorkspace (flag : Flag) (context : FlagContext) : FlagRule → Bool
  | .standard _ _ => false
  | .exception o =>
    o.flag = flag && o.connectionId = none && o.workspaceId = some context.workspaceId

/-- A default of the flag. -/
def isStandard (flag : Flag) : FlagRule → Bool
  | .standard f _ => f = flag
  | .exception _ => false

def override? : FlagRule → Option FlagOverride
  | .standard _ _ => none
  | .exception o => some o

section Kind

variable {flag : Flag} {context : FlagContext} {g : FlagRule}

theorem of_isForConnection (h : g.isForConnection flag context = true) :
    g.flag = flag ∧ g.kind? = some .connection := by
  cases g with
  | standard f v => cases h
  | exception o =>
      simp only [isForConnection, Bool.and_eq_true, decide_eq_true_eq] at h
      exact ⟨h.1.1, by simp [kind?, FlagOverride.namesConnection, h.1.2]⟩

theorem of_isForWorkspace (h : g.isForWorkspace flag context = true) :
    g.flag = flag ∧ g.kind? = some .workspace := by
  cases g with
  | standard f v => cases h
  | exception o =>
      simp only [isForWorkspace, Bool.and_eq_true, decide_eq_true_eq] at h
      refine ⟨h.1.1, ?_⟩
      simp [kind?, FlagOverride.namesConnection, FlagOverride.namesWorkspace, h.1.2, h.2]

theorem of_isStandard (h : g.isStandard flag = true) :
    g.flag = flag ∧ g.kind? = some .standard := by
  cases g with
  | standard f v => exact ⟨of_decide_eq_true h, rfl⟩
  | exception o => cases h

end Kind

end FlagRule

/-- The first rule with a property. -/
def IsFirst (p : FlagRule → Bool) (gs : List FlagRule) (g : FlagRule) : Prop :=
  p g = true ∧ ∃ before after, gs = before ++ g :: after ∧ ∀ h ∈ before, p h = false

/-- The last rule with a property. -/
def IsLast (p : FlagRule → Bool) (gs : List FlagRule) (g : FlagRule) : Prop :=
  p g = true ∧ ∃ before after, gs = before ++ g :: after ∧ ∀ h ∈ after, p h = false

def HasNoRule (p : FlagRule → Bool) (gs : List FlagRule) : Prop := ∀ g ∈ gs, p g = false

/-- The value that some rules give a flag in a context. -/
inductive Decides (gs : List FlagRule) (flag : Flag) (context : FlagContext) : Bool → Prop where
  | connection (g : FlagRule) (hfirst : IsFirst (FlagRule.isForConnection flag context) gs g) :
      Decides gs flag context g.value
  | workspace (g : FlagRule) (hconnection : HasNoRule (FlagRule.isForConnection flag context) gs)
      (hfirst : IsFirst (FlagRule.isForWorkspace flag context) gs g) :
      Decides gs flag context g.value
  | standard (g : FlagRule) (hconnection : HasNoRule (FlagRule.isForConnection flag context) gs)
      (hworkspace : HasNoRule (FlagRule.isForWorkspace flag context) gs)
      (hlast : IsLast (FlagRule.isStandard flag) gs g) : Decides gs flag context g.value
  | nothing (hconnection : HasNoRule (FlagRule.isForConnection flag context) gs)
      (hworkspace : HasNoRule (FlagRule.isForWorkspace flag context) gs)
      (hstandard : HasNoRule (FlagRule.isStandard flag) gs) : Decides gs flag context false

section Search

variable {p : FlagRule → Bool} {gs : List FlagRule} {g : FlagRule}

theorem isFirst_iff : IsFirst p gs g ↔ gs.find? p = some g := by
  rw [List.find?_eq_some_iff_append]
  simp only [IsFirst, Bool.not_eq_true']

theorem isLast_iff : IsLast p gs g ↔ gs.reverse.find? p = some g := by
  rw [List.find?_eq_some_iff_append]
  simp only [IsLast, Bool.not_eq_true']
  refine and_congr_right fun _ => ⟨?_, ?_⟩
  · rintro ⟨before, after, rfl, hafter⟩
    exact ⟨after.reverse, before.reverse, by simp, fun h hh => hafter h (List.mem_reverse.mp hh)⟩
  · rintro ⟨after, before, hsplit, hafter⟩
    refine ⟨before.reverse, after.reverse, ?_, fun h hh => hafter h (List.mem_reverse.mp hh)⟩
    rw [← List.reverse_reverse gs, hsplit]
    simp

theorem hasNoRule_iff : HasNoRule p gs ↔ gs.find? p = none := by
  simp [HasNoRule, List.find?_eq_none]

end Search

namespace FlagRules

def give (r : FlagRules) : FlagRule → FlagRules
  | .standard flag value => r.withDefault flag value
  | .exception o => r.withOverride o

/-- The rules given one after another. -/
def ofList (gs : List FlagRule) : FlagRules := gs.foldl give empty

variable {flag : Flag} {context : FlagContext}

theorem overrides_ofList (gs : List FlagRule) :
    (ofList gs).overrides = gs.filterMap FlagRule.override? := by
  induction gs using List.reverseRecOn with
  | nil => rfl
  | append_singleton gs g ih =>
      rw [ofList, List.foldl_concat, List.filterMap_append, ← ih]
      cases g with
      | standard f v => exact (List.append_nil _).symm
      | exception o => rfl

theorem get?_defaults_ofList (gs : List FlagRule) :
    (ofList gs).defaults.get? flag =
      (gs.reverse.find? (FlagRule.isStandard flag)).map FlagRule.value := by
  induction gs using List.reverseRecOn with
  | nil => rfl
  | append_singleton gs g ih =>
      rw [ofList, List.foldl_concat, List.reverse_concat, List.find?_cons]
      cases g with
      | exception o => exact ih
      | standard f v =>
          rw [give, withDefault, Table.get?_insert]
          by_cases hflag : f = flag
          · simp [FlagRule.isStandard, hflag, FlagRule.value]
          · rw [if_neg (Ne.symm hflag)]
            simpa [FlagRule.isStandard, hflag, ofList] using ih

theorem find?_applicable (gs : List FlagRule) (p : FlagOverride → Bool) :
    ((ofList gs).applicable flag context).find? p =
      (gs.find? fun g => g.override?.any fun o => o.applies flag context && p o).bind
        FlagRule.override? := by
  rw [applicable, overrides_ofList, List.find?_filter, List.find?_filterMap]
  simp only [Bool.decide_and, Bool.decide_eq_true]

theorem any_override?_connection (g : FlagRule) :
    (g.override?.any fun o => o.applies flag context && o.namesConnection) =
      g.isForConnection flag context := by
  cases g with
  | standard f v => rfl
  | exception o =>
      obtain ⟨f, workspace, connection, v⟩ := o
      cases workspace <;> cases connection <;>
        simp [FlagRule.override?, FlagRule.isForConnection, FlagOverride.applies,
          FlagOverride.admits, FlagOverride.namesConnection, Bool.and_right_comm]

/-- An override that is not for the connection, but names the workspace, names it alone. -/
theorem any_override?_workspace {g : FlagRule} (h : g.isForConnection flag context = false) :
    (g.override?.any fun o => o.applies flag context && o.namesWorkspace) =
      g.isForWorkspace flag context := by
  cases g with
  | standard f v => rfl
  | exception o =>
      rw [← any_override?_connection] at h
      obtain ⟨f, workspace, connection, v⟩ := o
      cases workspace <;> cases connection <;>
        simp_all [FlagRule.override?, FlagRule.isForWorkspace, FlagOverride.applies,
          FlagOverride.admits, FlagOverride.namesConnection, FlagOverride.namesWorkspace]

/-- The rule that decides is looked for among those for the connection, then among those for
the workspace, and then among the defaults, beginning with the last one. -/
theorem resolve_ofList (gs : List FlagRule) (flag : Flag) (context : FlagContext) :
    (ofList gs).resolve flag context =
      (((gs.find? (FlagRule.isForConnection flag context)).or
        ((gs.find? (FlagRule.isForWorkspace flag context)).or
          (gs.reverse.find? (FlagRule.isStandard flag)))).map FlagRule.value).getD false := by
  rw [resolve, deciding?, find?_applicable, find?_applicable, get?_defaults_ofList,
    Flag.default_eq_false]
  simp only [any_override?_connection]
  cases hconnection : gs.find? (FlagRule.isForConnection flag context) with
  | some g =>
      have hg := List.find?_some hconnection
      cases g with
      | standard f v => cases hg
      | exception o => rfl
  | none =>
      -- no rule names the connection, so those that name a workspace name it alone
      have hother : ∀ g ∈ gs, g.isForConnection flag context = false :=
        hasNoRule_iff.mpr hconnection
      rw [← List.head?_filter,
        List.filter_congr fun g hg => any_override?_workspace (hother g hg), List.head?_filter]
      cases hworkspace : gs.find? (FlagRule.isForWorkspace flag context) with
      | some g =>
          have hg := List.find?_some hworkspace
          cases g with
          | standard f v => cases hg
          | exception o => rfl
      | none => rfl

theorem decides_iff (gs : List FlagRule) (flag : Flag) (context : FlagContext) (value : Bool) :
    Decides gs flag context value ↔ (ofList gs).resolve flag context = value := by
  rw [resolve_ofList]
  constructor
  · rintro (⟨g, hfirst⟩ | ⟨g, hconnection, hfirst⟩ | ⟨g, hconnection, hworkspace, hlast⟩ |
      ⟨hconnection, hworkspace, hstandard⟩)
    · rw [isFirst_iff.mp hfirst]
      rfl
    · rw [hasNoRule_iff.mp hconnection, isFirst_iff.mp hfirst]
      rfl
    · rw [hasNoRule_iff.mp hconnection, hasNoRule_iff.mp hworkspace, isLast_iff.mp hlast]
      rfl
    · have hnone : gs.reverse.find? (FlagRule.isStandard flag) = none :=
        hasNoRule_iff.mp fun g hg => hstandard g (List.mem_reverse.mp hg)
      rw [hasNoRule_iff.mp hconnection, hasNoRule_iff.mp hworkspace, hnone]
      rfl
  · rintro rfl
    cases hconnection : gs.find? (FlagRule.isForConnection flag context) with
    | some g => exact .connection g (isFirst_iff.mpr hconnection)
    | none =>
        have hconnection := hasNoRule_iff.mpr hconnection
        cases hworkspace : gs.find? (FlagRule.isForWorkspace flag context) with
        | some g => exact .workspace g hconnection (isFirst_iff.mpr hworkspace)
        | none =>
            have hworkspace := hasNoRule_iff.mpr hworkspace
            cases hstandard : gs.reverse.find? (FlagRule.isStandard flag) with
            | some g => exact .standard g hconnection hworkspace (isLast_iff.mpr hstandard)
            | none =>
                refine .nothing hconnection hworkspace fun g hg => ?_
                exact hasNoRule_iff.mpr hstandard g (List.mem_reverse.mpr hg)

/-- The rules of one kind about one flag. -/
def ofKind (flag : Flag) (kind : FlagRule.Kind) (gs : List FlagRule) : List FlagRule :=
  gs.filter fun g => g.flag = flag && g.kind? = some kind

/-- The rules of one kind about one flag are given in the same order. -/
def SameOrder (gs hs : List FlagRule) : Prop :=
  ∀ flag kind, ofKind flag kind gs = ofKind flag kind hs

/-- The rules of some kind. -/
def effective (gs : List FlagRule) : List FlagRule := gs.filter fun g => g.kind?.isSome

section Order

variable {gs hs : List FlagRule}

theorem find?_ofKind {p : FlagRule → Bool} {kind : FlagRule.Kind}
    (h : ∀ g : FlagRule, p g = true → g.flag = flag ∧ g.kind? = some kind) :
    (ofKind flag kind gs).find? p = gs.find? p := by
  rw [ofKind, ← List.head?_filter, ← List.head?_filter, List.filter_filter]
  congr 2
  funext g
  rw [Bool.and_eq_left_iff_imp]
  intro hg
  simp [h g hg]

theorem reverse_ofKind (kind : FlagRule.Kind) :
    (ofKind flag kind gs).reverse = ofKind flag kind gs.reverse :=
  List.filter_reverse.symm

theorem resolve_congr (h : SameOrder gs hs) (flag : Flag) (context : FlagContext) :
    (ofList gs).resolve flag context = (ofList hs).resolve flag context := by
  have hconnection (rs : List FlagRule) :
      (ofKind flag .connection rs).find? (FlagRule.isForConnection flag context) =
        rs.find? (FlagRule.isForConnection flag context) :=
    find?_ofKind fun _ => FlagRule.of_isForConnection
  have hworkspace (rs : List FlagRule) :
      (ofKind flag .workspace rs).find? (FlagRule.isForWorkspace flag context) =
        rs.find? (FlagRule.isForWorkspace flag context) :=
    find?_ofKind fun _ => FlagRule.of_isForWorkspace
  have hstandard (rs : List FlagRule) :
      (ofKind flag .standard rs).reverse.find? (FlagRule.isStandard flag) =
        rs.reverse.find? (FlagRule.isStandard flag) := by
    rw [reverse_ofKind]
    exact find?_ofKind fun _ => FlagRule.of_isStandard
  rw [resolve_ofList, resolve_ofList, ← hconnection gs, ← hworkspace gs, ← hstandard gs, h, h, h,
    hconnection, hworkspace, hstandard]

theorem ofKind_effective (kind : FlagRule.Kind) :
    ofKind flag kind (effective gs) = ofKind flag kind gs := by
  rw [ofKind, effective, List.filter_filter]
  refine List.filter_congr fun g _ => ?_
  rw [Bool.and_eq_left_iff_imp]
  intro hg
  simp_all

theorem sameOrder_of_effective (h : effective gs = effective hs) : SameOrder gs hs := by
  intro flag kind
  rw [← ofKind_effective, h, ofKind_effective]

end Order

/-- A flag has the value of the first override for the connection, or of the first one for the
workspace, or of the last default, or else it is off. So only the order within a kind matters,
and overrides of no kind do not matter at all. -/
theorem decided_by_precedence (gs : List FlagRule) :
    (∀ flag context value,
        (ofList gs).resolve flag context = value ↔ Decides gs flag context value) ∧
      (∀ hs, SameOrder gs hs → ∀ flag context,
        (ofList hs).resolve flag context = (ofList gs).resolve flag context) ∧
      ∀ hs, effective gs = effective hs → ∀ flag context,
        (ofList hs).resolve flag context = (ofList gs).resolve flag context := by
  refine ⟨fun flag context value => (decides_iff gs flag context value).symm, ?_, ?_⟩
  · intro hs h flag context
    exact (resolve_congr h flag context).symm
  · intro hs h flag context
    exact (resolve_congr (sameOrder_of_effective h) flag context).symm

/-- Rules that contradict each other, of all kinds. -/
def contradictory : List FlagRule :=
  [.standard .processRateLimitedMessages true,
   .exception ⟨.processRateLimitedMessages, some (.ofNat 1), none, true⟩,
   .exception ⟨.processRateLimitedMessages, some (.ofNat 1), some (.ofNat 2), false⟩,
   .exception ⟨.processRateLimitedMessages, none, none, true⟩,
   .exception ⟨.processRateLimitedMessages, none, some (.ofNat 2), true⟩,
   .exception ⟨.failSyncOnDestinationTimeout, none, some (.ofNat 2), true⟩,
   .standard .processRateLimitedMessages false]

/-- The same rules in another order. -/
def rearranged : List FlagRule :=
  [.exception ⟨.failSyncOnDestinationTimeout, none, some (.ofNat 2), true⟩,
   .exception ⟨.processRateLimitedMessages, some (.ofNat 1), some (.ofNat 2), false⟩,
   .standard .processRateLimitedMessages true,
   .exception ⟨.processRateLimitedMessages, none, some (.ofNat 2), true⟩,
   .standard .processRateLimitedMessages false,
   .exception ⟨.processRateLimitedMessages, some (.ofNat 1), none, true⟩,
   .exception ⟨.processRateLimitedMessages, none, none, true⟩]

theorem decided_by_precedence_rearranged :
    contradictory.Perm rearranged ∧ SameOrder contradictory rearranged ∧
      (∀ flag context,
        (ofList rearranged).resolve flag context = (ofList contradictory).resolve flag context) ∧
      Decides contradictory .processRateLimitedMessages ⟨.ofNat 1, .ofNat 2⟩ false := by
  have horder : SameOrder contradictory rearranged := by
    intro flag kind
    cases flag <;> cases kind <;> decide
  obtain ⟨hdecides, hreordered, -⟩ := decided_by_precedence contradictory
  exact ⟨by decide, horder, hreordered rearranged horder, (hdecides _ _ _).mp (by decide)⟩

end FlagRules

end SyncLedger
