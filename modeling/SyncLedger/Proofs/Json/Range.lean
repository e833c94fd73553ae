import SyncLedger.Proofs.Json.ReadBack

/-!
# What a decoder can give

`Gives decode P` says that every value that the decoder gives has the property `P`, whatever it
is read from. A record has a property if its fields have what makes up that property; a field
also counts with the values that it has when it is absent.
-/

namespace SyncLedger

namespace Decode

variable {α β : Type}

/-- Every value that the decoder gives has the property. -/
def Gives (decode : Decoder α) (P : α → Prop) : Prop :=
  ∀ j a, decode j = .ok a → P a

/-- Every value that the field can have has the property. -/
structure Field.Gives (f : Field α) (P : α → Prop) : Prop where
  present : Decode.Gives f.decode P
  absent : ∀ a, f.absent = some a → P a
  cut : ∀ a, f.cut = some a → P a

/-- Every record with these fields has the property. -/
structure Fields.Gives (fs : Fields α) (P : α → Prop) : Prop where
  ofObject : ∀ o a, fs.ofObject o = .ok a → P a
  ofList : ∀ js a rest, fs.ofList js = .ok (a, rest) → P a

theorem gives_option {decode : Decoder α} {P : α → Prop} (h : Gives decode P) :
    Gives (option decode) fun x => ∀ a ∈ x, P a := by
  intro j x hx a ha
  obtain rfl := Option.mem_def.mp ha
  by_cases hj : j = .null
  · subst hj
    cases hx
  · rw [option_of_ne_null decode hj] at hx
    cases hdecode : decode j with
    | error e =>
        rw [hdecode] at hx
        cases hx
    | ok b =>
        rw [hdecode] at hx
        cases hx
        exact h j a hdecode

/-- Data that may be absent is never `null` when it is there. -/
theorem gives_option_any : Gives (option any) (· ≠ some .null) := by
  rintro j x hx rfl
  by_cases hj : j = .null
  · subst hj
    cases hx
  · rw [option_of_ne_null any hj] at hx
    cases hx
    exact hj rfl

theorem Field.gives_true (f : Field α) : f.Gives fun _ => True :=
  ⟨fun _ _ _ => trivial, fun _ _ => trivial, fun _ _ => trivial⟩

theorem gives_required {name : String} {decode : Decoder α} {P : α → Prop}
    (h : Gives decode P) : (required name decode).Gives P where
  present := h
  absent _ ha := nomatch ha
  cut _ ha := nomatch ha

theorem gives_optional {name : String} {decode : Decoder α} {P : Option α → Prop}
    (h : Gives (option decode) P) (hnone : P none) : (optional name decode).Gives P where
  present := h
  absent a ha := by
    cases ha
    exact hnone
  cut a ha := by
    cases ha
    exact hnone

theorem gives_nothing {P : α → Prop} {a : α} (h : P a) : (nothing a).Gives P where
  ofObject o b hb := by
    cases hb
    exact h
  ofList js b rest hb := by
    cases hb
    exact h

theorem Fields.Gives.and {fs : Fields (α → β)} {f : Field α} {P : β → Prop} {Q : α → Prop}
    (hfs : fs.Gives fun g => ∀ a, Q a → P (g a)) (hf : f.Gives Q) : (fs.and f).Gives P where
  ofObject o b hb := by
    obtain ⟨g, a, hg, ha, rfl⟩ := Fields.ofObject_and_eq_ok_iff.mp hb
    refine hfs.ofObject o g hg a ?_
    rcases Field.inObject_eq_ok_iff.mp ha with ⟨j, -, hj⟩ | ⟨-, habsent⟩
    · exact hf.present j a hj
    · exact hf.absent a habsent
  ofList js b rest hb := by
    obtain ⟨g, left, a, hg, ha, rfl⟩ := Fields.ofList_and_eq_ok_iff.mp hb
    refine hfs.ofList js g left hg a ?_
    rcases Field.inList_eq_ok_iff.mp ha with ⟨j, -, hj⟩ | ⟨-, -, hcut⟩
    · exact hf.present j a hj
    · exact hf.cut a hcut

theorem gives_ofMembers {fs : Fields α} {P : α → Prop} (h : fs.Gives P)
    {o : List (String × Json)} {a : α} (ha : ofMembers fs o = .ok a) : P a :=
  h.ofObject o a (ofMembers_eq_ok_iff.mp ha)

theorem gives_ofElements {fs : Fields α} {P : α → Prop} (h : fs.Gives P) {d : Dialect}
    {what : String} {js : List Json} {a : α} (ha : ofElements d what fs js = .ok a) : P a := by
  obtain ⟨rest, hrest, -⟩ := ofElements_eq_ok_iff.mp ha
  exact h.ofList js a rest hrest

theorem gives_record {fs : Fields α} {P : α → Prop} (d : Dialect) (what : String)
    (h : fs.Gives P) : Gives (record d what fs) P := by
  intro j a ha
  rcases record_eq_ok_iff.mp ha with ⟨o, rfl, hmembers⟩ | ⟨js, rfl, helements⟩
  · exact gives_ofMembers h hmembers
  · exact gives_ofElements h helements

end Decode

end SyncLedger
