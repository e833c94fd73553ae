import Mathlib.Data.List.Induction
import Mathlib.Tactic.SplitIfs
import SyncLedger.Log.Filter

/-!
# Which directive decides

A filter is made by adding directives one after another. If none of them asks for a field, it
holds the last one for every name, and of those that cover a target the longest name decides. The
name of the target itself is the longest one there can be. A directive that does not cover a
target has no say in what is let through for it.
-/

namespace SyncLedger

namespace LogDirective

/-- The directives with some name, or those for all targets. -/
def ofTarget (name : Option (List Char)) (ds : List LogDirective) : List LogDirective :=
  ds.filter fun d => d.target = name

theorem ofTarget_append (name : Option (List Char)) (ds es : List LogDirective) :
    ofTarget name (ds ++ es) = ofTarget name ds ++ ofTarget name es :=
  List.filter_append ds es

theorem ofTarget_singleton (name : Option (List Char)) (d : LogDirective) :
    ofTarget name [d] = if d.target = name then [d] else [] := by
  simp [ofTarget, List.filter_cons]

theorem mem_ofTarget {name : Option (List Char)} {ds : List LogDirective} {d : LogDirective} :
    d ∈ ofTarget name ds ↔ d ∈ ds ∧ d.target = name := by
  rw [ofTarget, List.mem_filter, decide_eq_true_iff]

variable {d e : LogDirective} {target : List Char}

theorem covers_congr (h : d.target = e.target) : d.covers target = e.covers target := by
  rw [covers, covers, h]

theorem covers_of_target (h : d.target = some target) : d.covers target = true := by
  rw [covers, h]
  exact List.isPrefixOf_iff_prefix.mpr List.prefix_rfl

/-- No directive about a target is more specific than one with its very name. -/
theorem specificity_lt (hcovers : d.covers target = true) (hne : d.target ≠ some target) :
    d.specificity < target.length + 1 := by
  rw [covers] at hcovers
  rw [specificity]
  cases hname : d.target with
  | none => exact Nat.succ_pos _
  | some start =>
      rw [hname] at hcovers hne
      have hbegins := List.isPrefixOf_iff_prefix.mp hcovers
      have hle := hbegins.length_le
      have hlength : start.length ≠ target.length := by
        intro hlength
        exact hne (congrArg some (hbegins.eq_of_length hlength))
      change start.length + 1 < target.length + 1
      omega

theorem precedes_of_specificity (h : e.specificity < d.specificity) :
    d.precedes e = true ∧ e.precedes d = false := by
  rw [precedes, precedes, if_pos (by omega), if_pos (by omega)]
  exact ⟨decide_eq_true h, decide_eq_false (by omega)⟩

theorem isMetBy_of_fields (h : d.fields = []) (names : List (List Char)) :
    d.isMetBy names = true := by
  rw [isMetBy, fieldNames, h]
  rfl

theorem sharesScope_of_fields (hd : d.fields = []) (he : e.fields = []) :
    d.sharesScope e = decide (d.target = e.target) := by
  simp [sharesScope, fieldNames, hd, he]

end LogDirective

namespace LogFilter

open LogDirective

/-! ## The directive that decides -/

section Deciding

theorem sharper_cases (best : Option LogDirective) (d : LogDirective) :
    sharper best d = some d ∨ sharper best d = best := by
  cases best with
  | none => exact .inl rfl
  | some b =>
      rw [sharper]
      split_ifs
      · exact .inl rfl
      · exact .inr rfl

theorem sharper_of_precedes {best : Option LogDirective} {e : LogDirective}
    (h : ∀ b ∈ best, b ≠ e → e.precedes b = true) : sharper best e = some e := by
  cases best with
  | none => rfl
  | some b =>
      rw [sharper]
      split_ifs with hprecedes
      · rfl
      · by_contra hne
        exact hprecedes (h b rfl fun heq => hne (congrArg some heq))

/-- The search for the sharpest directive finds the one that comes before all others. -/
theorem foldl_sharper {e : LogDirective} {ds : List LogDirective} {best : Option LogDirective}
    (hmem : best = some e ∨ e ∈ ds)
    (hbest : ∀ b ∈ best, b ≠ e → e.precedes b = true)
    (hds : ∀ b ∈ ds, b ≠ e → e.precedes b = true ∧ b.precedes e = false) :
    ds.foldl sharper best = some e := by
  -- the best one so far is `e`, or it comes after `e`, which is still to be met
  induction ds generalizing best with
  | nil => exact hmem.resolve_right List.not_mem_nil
  | cons d ds ih =>
      obtain ⟨hd, hrest⟩ := List.forall_mem_cons.mp hds
      by_cases hde : d = e
      · obtain rfl := hde
        rw [List.foldl_cons, sharper_of_precedes hbest]
        exact ih (.inl rfl) (fun b hb hne => absurd (Option.some.inj hb).symm hne) hrest
      · rw [List.foldl_cons]
        refine ih ?_ ?_ hrest
        · rcases hmem with rfl | hmem
          · left
            rw [sharper, (hd hde).2]
            rfl
          · exact .inr ((List.mem_cons.mp hmem).resolve_left (Ne.symm hde))
        · intro b hb hne
          rcases sharper_cases best d with hsharper | hsharper
          · rw [hsharper] at hb
            obtain rfl := Option.some.inj hb
            exact (hd hne).1
          · rw [hsharper] at hb
            exact hbest b hb hne

variable {f : LogFilter} {d e : LogDirective} {target : String}

/-- If there is a directive with the very name of a target, its limit is that of the target. -/
theorem eventLimit_of_ofTarget (hfields : ∀ b ∈ f.directives, b.fields = [])
    (h : ofTarget (some target.toList) f.directives = [e]) (names : List String) :
    f.eventLimit target names = e.limit := by
  obtain ⟨he, htarget⟩ := mem_ofTarget.mp (h ▸ List.mem_singleton_self e)
  have hspecificity : e.specificity = target.toList.length + 1 := by rw [specificity, htarget]
  have hdeciding : f.deciding? (fun b => b.covers target.toList &&
      b.isMetBy (names.map String.toList)) = some e := by
    refine foldl_sharper (.inr ?_) nofun fun b hb hne => ?_
    · rw [List.mem_filter, covers_of_target htarget, isMetBy_of_fields (hfields e he)]
      exact ⟨he, rfl⟩
    · obtain ⟨hb, hadmits⟩ := List.mem_filter.mp hb
      rw [Bool.and_eq_true] at hadmits
      refine precedes_of_specificity ?_
      rw [hspecificity]
      refine specificity_lt hadmits.1 fun hname => hne ?_
      exact List.mem_singleton.mp (h ▸ mem_ofTarget.mpr ⟨hb, hname⟩)
  rw [eventLimit, hdeciding, Option.bind_some]

theorem eventLimit_eq_limit (hfields : ∀ b ∈ f.directives, b.fields = []) (names : List String) :
    f.eventLimit target names = f.limit target := by
  rw [eventLimit, limit, deciding?, deciding?]
  congr 2
  refine List.filter_congr fun b hb => ?_
  rw [isMetBy_of_fields (hfields b hb), Bool.and_true]

theorem limit_add_of_not_covers (h : d.covers target.toList = false) :
    (f.add d).limit target = f.limit target := by
  have hfilter : (f.add d).directives.filter (fun b => b.covers target.toList) =
      f.directives.filter fun b => b.covers target.toList := by
    rw [add, List.filter_append, List.filter_filter, List.filter_cons_of_neg (by rw [h]; decide)]
    refine (List.append_nil _).trans (List.filter_congr fun b _ => ?_)
    rw [Bool.and_eq_left_iff_imp]
    intro hcovers
    rw [Bool.not_eq_true']
    refine decide_eq_false fun hscope => ?_
    rw [covers_congr hscope.1, h] at hcovers
    cases hcovers
  rw [limit, limit, deciding?, deciding?, hfilter]

end Deciding

/-! ## One directive after another -/

section Add

variable {ds es : List LogDirective}

theorem mem_of_mem_foldl_add {f : LogFilter} {d : LogDirective}
    (h : d ∈ (ds.foldl add f).directives) : d ∈ f.directives ∨ d ∈ ds := by
  induction ds using List.reverseRecOn with
  | nil => exact .inl h
  | append_singleton ds e ih =>
      rw [List.foldl_append, List.foldl_cons, List.foldl_nil, add, List.mem_append,
        List.mem_filter] at h
      rcases h with h | h
      · exact (ih h.1).imp_right (List.mem_append_left [e])
      · exact .inr (List.mem_append_right ds h)

theorem fields_of_mem_foldl_add (hds : ∀ d ∈ ds, d.fields = []) :
    ∀ d ∈ (ds.foldl add ⟨[]⟩).directives, d.fields = [] := by
  intro d hd
  rcases mem_of_mem_foldl_add hd with hd | hd
  · cases hd
  · exact hds d hd

/-- The last directive with a name takes the place of the others. -/
theorem ofTarget_foldl_add (hds : ∀ d ∈ ds, d.fields = []) (name : Option (List Char)) :
    ofTarget name (ds.foldl add ⟨[]⟩).directives = (ofTarget name ds).getLast?.toList := by
  induction ds using List.reverseRecOn with
  | nil => rfl
  | append_singleton ds e ih =>
      obtain ⟨hds, he⟩ := List.forall_mem_append.mp hds
      have hfields := fields_of_mem_foldl_add hds
      rw [List.foldl_append, List.foldl_cons, List.foldl_nil, add, ofTarget_append,
        ofTarget_append]
      by_cases hname : e.target = name
      · have hothers : ofTarget name ((ds.foldl add ⟨[]⟩).directives.filter
            fun d => !d.sharesScope e) = [] := by
          refine List.filter_eq_nil_iff.mpr fun d hd => ?_
          obtain ⟨hd, hscope⟩ := List.mem_filter.mp hd
          rw [sharesScope_of_fields (hfields d hd) (he e (List.mem_singleton_self e)), hname]
            at hscope
          simpa using hscope
        rw [hothers, ofTarget_singleton, if_pos hname, List.getLast?_append]
        rfl
      · have hothers : ofTarget name ((ds.foldl add ⟨[]⟩).directives.filter
            fun d => !d.sharesScope e) = ofTarget name (ds.foldl add ⟨[]⟩).directives := by
          rw [ofTarget, List.filter_filter]
          refine List.filter_congr fun d hd => ?_
          rw [Bool.and_eq_left_iff_imp, decide_eq_true_iff]
          intro hd'
          rw [sharesScope_of_fields (hfields d hd) (he e (List.mem_singleton_self e)), hd',
            decide_eq_false (Ne.symm hname)]
          rfl
        rw [hothers, ofTarget_singleton, if_neg hname, List.append_nil, List.append_nil, ih hds]

/-- The last directive with the very name of a target decides. -/
theorem eventLimit_foldl_add (hds : ∀ d ∈ ds, d.fields = []) {target : String}
    {d : LogDirective} (h : (ofTarget (some target.toList) ds).getLast? = some d)
    (names : List String) : (ds.foldl add ⟨[]⟩).eventLimit target names = d.limit := by
  refine eventLimit_of_ofTarget (fields_of_mem_foldl_add hds) ?_ names
  rw [ofTarget_foldl_add hds, h]
  rfl

theorem limit_foldl_add_of_not_covers {f : LogFilter} {target : String}
    (h : ∀ d ∈ ds, d.covers target.toList = false) :
    (ds.foldl add f).limit target = f.limit target := by
  induction ds generalizing f with
  | nil => rfl
  | cons d ds ih =>
      obtain ⟨hd, hds⟩ := List.forall_mem_cons.mp h
      rw [List.foldl_cons, ih hds, limit_add_of_not_covers hd]

end Add

end LogFilter

end SyncLedger
