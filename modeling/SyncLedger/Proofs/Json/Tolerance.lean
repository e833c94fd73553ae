import Mathlib.Data.List.Nodup
import SyncLedger.Proofs.Json.ReadBack

/-!
# Fields that nobody knows

Data may carry more fields than its reader knows. A `Layout` says which parts of a value are
records and which fields these declare, and `Extends` adds a field of another name to one of
these records, wherever in the value it is. A decoder `Tolerates` such additions if they change
nothing in what it gives. A record does if its fields do, because it looks at nothing but the
fields that it declares; this is `Fields.Tolerates`, which grows with the fields.
-/

namespace SyncLedger

open Json (field?)

/-- Which parts of a value are records, and the fields that these declare. -/
inductive Layout where
  /-- No record, and none inside. -/
  | plain
  | record (fields : List (String × Layout))
  | list (items : Layout)

/-- The second value is the first one with one more field in a record, under a name that the
record does not declare. A record may be an object or a list of its fields. -/
inductive Extends : Layout → Json → Json → Prop where
  | here {fields : List (String × Layout)} {name : String} (value : Json)
      (before after : List (String × Json)) (hname : name ∉ fields.map Prod.fst) :
      Extends (.record fields) (.obj (before ++ after)) (.obj (before ++ (name, value) :: after))
  | inField {fields : List (String × Layout)} {name : String} {layout : Layout} {j j' : Json}
      (before after : List (String × Json)) (hfield : (name, layout) ∈ fields)
      (hj : Extends layout j j') :
      Extends (.record fields) (.obj (before ++ (name, j) :: after))
        (.obj (before ++ (name, j') :: after))
  | inElement {fields : List (String × Layout)} {name : String} {layout : Layout} {j j' : Json}
      (before after : List Json) (hfield : fields[before.length]? = some (name, layout))
      (hj : Extends layout j j') :
      Extends (.record fields) (.arr (before ++ j :: after)) (.arr (before ++ j' :: after))
  | inItem {items : Layout} {j j' : Json} (before after : List Json) (hj : Extends items j j') :
      Extends (.list items) (.arr (before ++ j :: after)) (.arr (before ++ j' :: after))

/-- Two parts that may be missing are the same, or the second one extends the first. -/
def Widened (layout : Layout) (x x' : Option Json) : Prop :=
  x' = x ∨ ∃ j j', x = some j ∧ x' = some j' ∧ Extends layout j j'

/-- The fields of two objects, as far as they are declared. -/
def WidenedObject (layouts : List (String × Layout)) (o o' : List (String × Json)) : Prop :=
  ∀ p ∈ layouts, Widened p.2 (field? p.1 o) (field? p.1 o')

/-- The fields of two lists, as far as they are declared. -/
def WidenedList (layouts : List (String × Layout)) (js js' : List Json) : Prop :=
  ∀ (i : Nat) (p : String × Layout), layouts[i]? = some p → Widened p.2 js[i]? js'[i]?

theorem widened_none {layout : Layout} {x' : Option Json} (h : Widened layout none x') :
    x' = none := by
  rcases h with rfl | ⟨j, j', hj, -⟩
  · rfl
  · cases hj

theorem widened_plain {x x' : Option Json} (h : Widened .plain x x') : x' = x := by
  rcases h with rfl | ⟨j, j', -, -, hext⟩
  · rfl
  · cases hext

theorem WidenedList.tail {p : String × Layout} {layouts : List (String × Layout)} {j j' : Json}
    {js js' : List Json} (h : WidenedList (p :: layouts) (j :: js) (j' :: js')) :
    WidenedList layouts js js' :=
  fun i q hq => h (i + 1) q hq

namespace Extends

variable {layout : Layout} {fields : List (String × Layout)} {j j' : Json}

theorem ne_null (h : Extends layout j j') : j ≠ .null ∧ j' ≠ .null := by
  cases h with
  | here | inField | inElement | inItem => exact ⟨Json.noConfusion, Json.noConfusion⟩

/-- Of the fields that a record declares an extension changes one at most, by extending it. -/
theorem exists_obj {o : List (String × Json)} (h : Extends (.record fields) (.obj o) j')
    (hnodup : (fields.map Prod.fst).Nodup) :
    ∃ o', j' = .obj o' ∧ WidenedObject fields o o' := by
  cases h with
  | here value before after hname =>
      rename_i name
      refine ⟨_, rfl, fun p hp => .inl ?_⟩
      have hne : name ≠ p.1 := by
        rintro rfl
        exact hname (List.mem_map_of_mem hp)
      rw [Json.field?_append, Json.field?_append, Json.field?_cons, if_neg hne]
  | inField before after hfield hj =>
      rename_i name layout k k'
      refine ⟨_, rfl, fun p hp => ?_⟩
      simp only [Json.field?_append, Json.field?_cons]
      by_cases hname : name = p.1
      · obtain rfl : (name, layout) = p := List.inj_on_of_nodup_map hnodup hfield hp hname
        rw [if_pos rfl, if_pos rfl]
        -- a field of the same name further in front hides the one that is extended
        cases field? name before with
        | some value => exact .inl rfl
        | none => exact .inr ⟨k, k', rfl, rfl, hj⟩
      · rw [if_neg hname, if_neg hname]
        exact .inl rfl

/-- Of a list of fields an extension changes one at most, by extending it. -/
theorem exists_arr {js : List Json} (h : Extends (.record fields) (.arr js) j') :
    ∃ js', j' = .arr js' ∧ js'.length = js.length ∧ WidenedList fields js js' := by
  cases h with
  | inElement before after hfield hj =>
      rename_i name layout k k'
      refine ⟨_, rfl, by simp, fun i p hp => ?_⟩
      rcases Nat.lt_trichotomy i before.length with hlt | rfl | hgt
      · rw [List.getElem?_append_left hlt, List.getElem?_append_left hlt]
        exact .inl rfl
      · obtain rfl : (name, layout) = p := Option.some.inj (hfield.symm.trans hp)
        exact .inr ⟨k, k', by simp, by simp, hj⟩
      · obtain ⟨n, rfl⟩ := Nat.exists_eq_add_of_lt hgt
        left
        rw [List.getElem?_append_right (by omega), List.getElem?_append_right (by omega),
          show before.length + n + 1 - before.length = n + 1 by omega]
        rfl

end Extends

namespace Decode

variable {α β : Type} {layout : Layout} {decode : Decoder α}

/-- The decoder gives the same value for data with additional fields. -/
def Tolerates (layout : Layout) (decode : Decoder α) : Prop :=
  ∀ j j' a, Extends layout j j' → decode j = .ok a → decode j' = .ok a

theorem tolerates_plain (decode : Decoder α) : Tolerates .plain decode :=
  fun _ _ _ h => nomatch h

theorem Tolerates.option (h : Tolerates layout decode) :
    Tolerates layout (Decode.option decode) := by
  intro j j' x hj hx
  obtain ⟨hne, hne'⟩ := hj.ne_null
  rw [option_of_ne_null decode hne] at hx
  rw [option_of_ne_null decode hne']
  cases ha : decode j with
  | error e =>
      rw [ha] at hx
      cases hx
  | ok a =>
      rw [ha] at hx
      rw [h j j' a hj ha, hx]

theorem items_cons_eq_ok_iff {i : Nat} {j : Json} {js : List Json} {as : List α} :
    items decode i (j :: js) = .ok as ↔
      ∃ a rest, decode j = .ok a ∧ items decode (i + 1) js = .ok rest ∧ a :: rest = as := by
  rw [items]
  cases decode j with
  | error e => simp [inside]
  | ok a =>
      cases items decode (i + 1) js with
      | error e => simp [inside, Except.map]
      | ok rest => simp [inside, Except.map]

theorem Tolerates.items (h : Tolerates layout decode) {j j' : Json} (hj : Extends layout j j')
    (i : Nat) (before after : List Json) {as : List α}
    (has : items decode i (before ++ j :: after) = .ok as) :
    items decode i (before ++ j' :: after) = .ok as := by
  induction before generalizing i as with
  | nil =>
      obtain ⟨a, rest, ha, hrest, rfl⟩ := items_cons_eq_ok_iff.mp has
      exact items_cons_eq_ok_iff.mpr ⟨a, rest, h j j' a hj ha, hrest, rfl⟩
  | cons k before ih =>
      obtain ⟨a, rest, ha, hrest, rfl⟩ := items_cons_eq_ok_iff.mp has
      exact items_cons_eq_ok_iff.mpr ⟨a, rest, ha, ih (i + 1) hrest, rfl⟩

theorem Tolerates.list (h : Tolerates layout decode) :
    Tolerates (.list layout) (Decode.list decode) := by
  intro j j' as hj has
  cases hj with
  | inItem before after hj => exact h.items hj 0 before after has

/-- The values of the declared fields are the same for data in which parts of them are
extended. -/
structure Fields.Tolerates (layouts : List (String × Layout)) (fs : Fields α) : Prop where
  count : fs.count = layouts.length
  left : ∀ js a rest, fs.ofList js = .ok (a, rest) → rest = js.drop layouts.length
  ofObject : ∀ o o' a, WidenedObject layouts o o' →
    fs.ofObject o = .ok a → fs.ofObject o' = .ok a
  ofList : ∀ js js' a, WidenedList layouts js js' →
    fs.ofList js = .ok (a, js.drop layouts.length) →
      fs.ofList js' = .ok (a, js'.drop layouts.length)

theorem Fields.tolerates_nothing (a : α) : Fields.Tolerates [] (nothing a) where
  count := rfl
  left js b rest h := by
    cases h
    rfl
  ofObject _ _ _ _ h := h
  ofList js js' b _ h := by
    cases h
    rfl

theorem Tolerates.widened (h : Tolerates layout decode) {j : Json} {x' : Option Json} {a : α}
    (hx : Widened layout (some j) x') (ha : decode j = .ok a) :
    ∃ j', x' = some j' ∧ decode j' = .ok a := by
  rcases hx with rfl | ⟨k, k', hk, rfl, hext⟩
  · exact ⟨j, rfl, ha⟩
  · obtain rfl := Option.some.inj hk
    exact ⟨k', rfl, h j k' a hext ha⟩

theorem Fields.Tolerates.and {layouts : List (String × Layout)} {fs : Fields (α → β)}
    {f : Field α} (hfs : fs.Tolerates layouts)
    (hf : Decode.Tolerates layout f.decode) :
    (fs.and f).Tolerates (layouts ++ [(f.name, layout)]) where
  count := by
    rw [List.length_append, ← hfs.count]
    rfl
  left js b rest h := by
    obtain ⟨g, left, a, hg, ha, rfl⟩ := Fields.ofList_and_eq_ok_iff.mp h
    obtain rfl := hfs.left js g left hg
    rw [List.length_append, List.length_singleton, ← List.tail_drop]
    rcases Field.inList_eq_ok_iff.mp ha with ⟨j, hjs, -⟩ | ⟨hjs, rfl, -⟩
    · rw [hjs, List.tail_cons]
    · rw [hjs, List.tail_nil]
  ofObject o o' b hwide h := by
    obtain ⟨g, a, hg, ha, rfl⟩ := Fields.ofObject_and_eq_ok_iff.mp h
    have hg' := hfs.ofObject o o' g (fun p hp => hwide p (List.mem_append_left _ hp)) hg
    refine Fields.ofObject_and_eq_ok_iff.mpr ⟨g, a, hg', ?_, rfl⟩
    have hx := hwide (f.name, layout) (List.mem_append_right _ (List.mem_singleton_self _))
    rcases Field.inObject_eq_ok_iff.mp ha with ⟨j, hj, hdecode⟩ | ⟨hj, habsent⟩
    · rw [hj] at hx
      exact Field.inObject_eq_ok_iff.mpr (.inl (hf.widened hx hdecode))
    · rw [hj] at hx
      exact Field.inObject_eq_ok_iff.mpr (.inr ⟨widened_none hx, habsent⟩)
  ofList js js' b hwide h := by
    obtain ⟨g, left, a, hg, ha, rfl⟩ := Fields.ofList_and_eq_ok_iff.mp h
    obtain rfl := hfs.left js g left hg
    have hg' := hfs.ofList js js' g (fun i p hp => hwide i p (by
      rw [List.getElem?_append_left (List.getElem?_eq_some_iff.mp hp).1, hp])) hg
    refine Fields.ofList_and_eq_ok_iff.mpr ⟨g, _, a, hg', ?_, rfl⟩
    have hx := hwide layouts.length (f.name, layout) (by simp)
    rw [← List.head?_drop, ← List.head?_drop] at hx
    rw [List.length_append, List.length_singleton, ← List.tail_drop]
    rcases Field.inList_eq_ok_iff.mp ha with ⟨j, hjs, hdecode⟩ | ⟨hjs, -, hcut⟩
    · rw [hjs] at hx
      obtain ⟨j', hj', hdecode'⟩ := hf.widened hx hdecode
      obtain ⟨rest', hjs'⟩ := List.head?_eq_some_iff.mp hj'
      rw [hjs']
      exact Field.inList_eq_ok_iff.mpr (.inl ⟨j', rfl, hdecode'⟩)
    · rw [hjs] at hx
      have hjs' := List.head?_eq_none_iff.mp (widened_none hx)
      rw [hjs']
      exact Field.inList_eq_ok_iff.mpr (.inr ⟨rfl, rfl, hcut⟩)

section Record

variable {layouts : List (String × Layout)} {fs : Fields α}

theorem Fields.Tolerates.ofMembers (hfs : fs.Tolerates layouts) {o o' : List (String × Json)}
    {a : α} (hwide : WidenedObject layouts o o') (h : Decode.ofMembers fs o = .ok a) :
    Decode.ofMembers fs o' = .ok a :=
  ofMembers_eq_ok_iff.mpr (hfs.ofObject o o' a hwide (ofMembers_eq_ok_iff.mp h))

theorem Fields.Tolerates.ofElements (hfs : fs.Tolerates layouts) {d : Dialect} {what : String}
    {js js' : List Json} {a : α} (hlength : js'.length = js.length)
    (hwide : WidenedList layouts js js') (h : Decode.ofElements d what fs js = .ok a) :
    Decode.ofElements d what fs js' = .ok a := by
  obtain ⟨rest, hrest, hleft⟩ := ofElements_eq_ok_iff.mp h
  obtain rfl := hfs.left js a rest hrest
  refine ofElements_eq_ok_iff.mpr ⟨_, hfs.ofList js js' a hwide hrest, ?_⟩
  rw [List.isEmpty_iff_length_eq_zero, List.length_drop] at hleft ⊢
  rwa [hlength]

/-- A record looks at nothing but the fields that it declares. -/
theorem Fields.Tolerates.record {fields : List (String × Layout)} {d : Dialect} {what : String}
    (hfs : fs.Tolerates layouts) (hlayouts : layouts = fields)
    (hnodup : (fields.map Prod.fst).Nodup) :
    Decode.Tolerates (.record fields) (Decode.record d what fs) := by
  subst hlayouts
  intro j j' a hj ha
  rcases record_eq_ok_iff.mp ha with ⟨o, rfl, hmembers⟩ | ⟨js, rfl, helements⟩
  · obtain ⟨o', rfl, hwide⟩ := hj.exists_obj hnodup
    exact record_eq_ok_iff.mpr (.inl ⟨o', rfl, hfs.ofMembers hwide hmembers⟩)
  · obtain ⟨js', rfl, hlength, hwide⟩ := hj.exists_arr
    exact record_eq_ok_iff.mpr (.inr ⟨js', rfl, hfs.ofElements hlength hwide helements⟩)

end Record

end Decode

end SyncLedger
