import SyncLedger.Json.Decode

/-!
# Values are read back from what is written for them

Writing a value and reading it gives the value back: for numbers, variants, lists and optional
values this is said here once. For a record it is a matter of its fields. `Fields.Reads` and
`Field.Reads` say what a description of fields makes of an object; a field is either present, or
absent and has a value for that case.
-/

namespace SyncLedger

open Json (field?)

namespace Decode

variable {α β : Type} {decode : Decoder α} {encode : α → Json}

/-- What is read, without the fault, can be compared where faults cannot. -/
theorem toOption_eq_some_iff {ε : Type} {x : Except ε α} {a : α} :
    x.toOption = some a ↔ x = .ok a := by
  cases x <;> simp [Except.toOption]

/-! ## Values -/

theorem int64_toInt (n : Int64) : int64 (.int n.toInt) = .ok n := by
  rw [int64, integer, if_pos ⟨n.minValue_le_toInt, n.toInt_le⟩]
  exact congrArg Except.ok n.ofInt_toInt

theorem uint64_toNat (n : UInt64) : uint64 (.int n.toNat) = .ok n := by
  have hlt : n.toNat < UInt64.size := n.toNat_lt_size
  have hrange : (0 : Int) ≤ n.toNat ∧ (n.toNat : Int) ≤ UInt64.size - 1 := by omega
  rw [uint64, integer, if_pos hrange]
  exact congrArg Except.ok n.ofNat_toNat

theorem uint32_toNat (n : UInt32) : uint32 (.int n.toNat) = .ok n := by
  have hlt : n.toNat < UInt32.size := n.toNat_lt_size
  have hrange : (0 : Int) ≤ n.toNat ∧ (n.toNat : Int) ≤ UInt32.size - 1 := by omega
  rw [uint32, integer, if_pos hrange]
  exact congrArg Except.ok n.ofNat_toNat

theorem variant_str {variants : List (String × α)} {name : String} {a : α} (d : Dialect)
    (other : Option α) (h : variantNamed? name variants = some a) :
    variant d variants other (.str name) = .ok a := by
  rw [variant, variantOf]
  simp only [h]

theorem items_map (i : Nat) {as : List α} (h : ∀ a ∈ as, decode (encode a) = .ok a) :
    items decode i (as.map encode) = .ok as := by
  induction as generalizing i with
  | nil => rfl
  | cons a as ih =>
      obtain ⟨ha, has⟩ := List.forall_mem_cons.mp h
      rw [List.map_cons, items, ha, inside]
      simp only [ih (i + 1) has, Except.map]

theorem list_map {as : List α} (h : ∀ a ∈ as, decode (encode a) = .ok a) :
    list decode (.arr (as.map encode)) = .ok as :=
  items_map 0 h

theorem option_eq_some {j : Json} {a : α} (h : decode j = .ok a) (hj : j ≠ .null) :
    option decode j = .ok (some a) := by
  rw [option_of_ne_null decode hj, h]
  rfl

/-- A value that is written as `null` would be taken for an absent one. -/
theorem option_ofOption {x : Option α} (hread : ∀ a ∈ x, decode (encode a) = .ok a)
    (hne : ∀ a ∈ x, encode a ≠ .null) : option decode (Json.ofOption encode x) = .ok x := by
  cases x with
  | none => rfl
  | some a => exact option_eq_some (hread a rfl) (hne a rfl)

/-! ## Records -/

theorem together_eq_ok_iff {γ : Type} {join : α → β → γ} {x : Except ObjectFault α}
    {y : Except ObjectFault β} {c : γ} :
    together join x y = .ok c ↔ ∃ a b, x = .ok a ∧ y = .ok b ∧ join a b = c := by
  cases x with
  | error e => cases y with
    | error f | ok b => simp [together]
  | ok a => cases y with
    | error f | ok b => simp [together]

theorem Fields.ofObject_and_eq_ok_iff {fs : Fields (α → β)} {f : Field α}
    {o : List (String × Json)} {b : β} :
    (fs.and f).ofObject o = .ok b ↔
      ∃ g a, fs.ofObject o = .ok g ∧ f.inObject o = .ok a ∧ g a = b :=
  together_eq_ok_iff

theorem Fields.ofList_and_eq_ok_iff {fs : Fields (α → β)} {f : Field α} {js rest : List Json}
    {b : β} :
    (fs.and f).ofList js = .ok (b, rest) ↔
      ∃ g left a, fs.ofList js = .ok (g, left) ∧ f.inList fs.count left = .ok (a, rest) ∧
        g a = b := by
  simp only [Fields.and]
  constructor
  · intro h
    split at h
    · cases h
    · rename_i g left hfs
      split at h
      · cases h
      · rename_i a rest hf
        cases h
        exact ⟨g, left, a, hfs, hf, rfl⟩
  · rintro ⟨g, left, a, hfs, hf, rfl⟩
    simp only [hfs, hf]

theorem Field.inObject_eq_ok_iff {f : Field α} {o : List (String × Json)} {a : α} :
    f.inObject o = .ok a ↔
      (∃ j, field? f.name o = some j ∧ f.decode j = .ok a) ∨
        field? f.name o = none ∧ f.absent = some a := by
  rw [Field.inObject]
  cases field? f.name o with
  | some j => cases hj : f.decode j with
    | error e | ok a => simp [hj]
  | none => cases f.absent with
    | none | some a => simp

theorem Field.inList_eq_ok_iff {f : Field α} {i : Nat} {js rest : List Json} {a : α} :
    f.inList i js = .ok (a, rest) ↔
      (∃ j, js = j :: rest ∧ f.decode j = .ok a) ∨ js = [] ∧ rest = [] ∧ f.cut = some a := by
  cases js with
  | cons j js =>
      rw [Field.inList]
      constructor
      · intro h
        split at h
        · rename_i hj
          cases h
          exact .inl ⟨j, rfl, hj⟩
        · cases h
      · rintro (⟨j, hjs, ha⟩ | ⟨hjs, -⟩)
        · cases hjs
          simp only [ha]
        · cases hjs
  | nil =>
      rw [Field.inList]
      cases f.cut with
      | none => simp
      | some b => simp [and_comm, eq_comm]

theorem ofMembers_eq_ok_iff {fs : Fields α} {o : List (String × Json)} {a : α} :
    ofMembers fs o = .ok a ↔ fs.ofObject o = .ok a := by
  rw [ofMembers]
  cases fs.ofObject o with
  | error e | ok b => simp

theorem ofElements_eq_ok_iff {d : Dialect} {what : String} {fs : Fields α} {js : List Json}
    {a : α} :
    ofElements d what fs js = .ok a ↔
      ∃ rest, fs.ofList js = .ok (a, rest) ∧
        (rest.isEmpty = true ∨ surplus d fs.count js.length = .ok ()) := by
  rw [ofElements]
  constructor
  · intro h
    split at h
    · cases h
    · cases h
    · rename_i b rest hfs
      split at h
      · rename_i hrest
        cases h
        exact ⟨rest, hfs, .inl hrest⟩
      · cases hsurplus : surplus d fs.count js.length with
        | error e =>
            rw [hsurplus] at h
            cases h
        | ok u =>
            rw [hsurplus] at h
            cases h
            exact ⟨rest, hfs, .inr rfl⟩
  · rintro ⟨rest, hfs, hrest | hsurplus⟩
    · simp only [hfs, hrest, if_true]
    · simp only [hfs, hsurplus, Except.map, ite_self]

theorem record_eq_ok_iff {d : Dialect} {what : String} {fs : Fields α} {j : Json} {a : α} :
    record d what fs j = .ok a ↔
      (∃ o, j = .obj o ∧ ofMembers fs o = .ok a) ∨
        ∃ js, j = .arr js ∧ ofElements d ("struct " ++ what) fs js = .ok a := by
  cases j with
  | obj | arr => simp [record]
  | null | bool | int | float | str | char => simp [record, fail]

/-! ## Records that are read -/

/-- The description of fields makes this value of an object. -/
def Fields.Reads (fs : Fields α) (o : List (String × Json)) (a : α) : Prop :=
  fs.ofObject o = .ok a

/-- The field has this value in an object. -/
def Field.Reads (f : Field α) (o : List (String × Json)) (a : α) : Prop :=
  f.inObject o = .ok a

variable {o : List (String × Json)} {name : String} {j : Json}

theorem reads_nothing (a : α) : (nothing a).Reads o a := rfl

theorem Fields.Reads.and {fs : Fields (α → β)} {g : α → β} {f : Field α} {a : α}
    (hfs : fs.Reads o g) (hf : f.Reads o a) : (fs.and f).Reads o (g a) :=
  Fields.ofObject_and_eq_ok_iff.mpr ⟨g, a, hfs, hf, rfl⟩

theorem Field.reads_of_present {f : Field α} {a : α} (hj : field? f.name o = some j)
    (ha : f.decode j = .ok a) : f.Reads o a :=
  Field.inObject_eq_ok_iff.mpr (.inl ⟨j, hj, ha⟩)

theorem Field.reads_of_absent {f : Field α} {a : α} (hj : field? f.name o = none)
    (ha : f.absent = some a) : f.Reads o a :=
  Field.inObject_eq_ok_iff.mpr (.inr ⟨hj, ha⟩)

theorem reads_required {a : α} (hj : field? name o = some j) (ha : decode j = .ok a) :
    (required name decode).Reads o a :=
  Field.reads_of_present hj ha

theorem reads_defaulted {a value : α} (hj : field? name o = some j) (ha : decode j = .ok a) :
    (defaulted name decode value).Reads o a :=
  Field.reads_of_present hj ha

theorem reads_nullable {x : Option α} (encode : α → Json)
    (hj : field? name o = some (Json.ofOption encode x))
    (hread : ∀ a ∈ x, decode (encode a) = .ok a) (hne : ∀ a ∈ x, encode a ≠ .null) :
    (nullable name decode).Reads o x :=
  Field.reads_of_present hj (option_ofOption hread hne)

/-- An optional field may be left out when there is no value. -/
theorem reads_optional {x : Option α} (encode : α → Json) (hj : field? name o = x.map encode)
    (hread : ∀ a ∈ x, decode (encode a) = .ok a) (hne : ∀ a ∈ x, encode a ≠ .null) :
    (optional name decode).Reads o x := by
  cases x with
  | none => exact Field.reads_of_absent hj rfl
  | some a => exact Field.reads_of_present hj (option_eq_some (hread a rfl) (hne a rfl))

theorem record_obj {fs : Fields α} {a : α} (d : Dialect) (what : String) (h : fs.Reads o a) :
    record d what fs (.obj o) = .ok a :=
  record_eq_ok_iff.mpr (.inl ⟨o, rfl, ofMembers_eq_ok_iff.mpr h⟩)

end Decode

end SyncLedger
