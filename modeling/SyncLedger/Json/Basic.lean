import SyncLedger.Number.Binary64

/-!
# Structured data

`Json` is the data that messages, jobs and settings are read from and written to. Whole
numbers and floating-point numbers are kept apart, because a field that counts something
accepts the first kind only. Single characters, which only settings know, are texts except
where a variant is asked for. The fields of an object are in the order of their names
when they come from a text; the operations here only look names up.
-/

namespace SyncLedger

/-- A value of structured data. -/
inductive Json where
  | null
  | bool (b : Bool)
  | int (n : Int)
  | float (x : Binary64)
  | str (s : String)
  | char (c : Char)
  | arr (items : List Json)
  | obj (fields : List (String × Json))
deriving Inhabited

namespace Json

/-- The value of the first field with a name. -/
def field? (name : String) : List (String × Json) → Option Json
  | [] => none
  | f :: fs => if f.1 = name then some f.2 else field? name fs

/-- Puts a field into a list ordered by name; a field of the same name is replaced. -/
def insertField (name : String) (value : Json) : List (String × Json) → List (String × Json)
  | [] => [(name, value)]
  | f :: fs =>
    if name < f.1 then (name, value) :: f :: fs
    else if f.1 = name then (name, value) :: fs
    else f :: insertField name value fs

/-- An object whose fields are ordered by name; of two fields with one name the later
counts. -/
def ofFields (fields : List (String × Json)) : Json :=
  obj (fields.foldl (fun fs f => insertField f.1 f.2 fs) [])

/-- An optional value, absence being `null`. -/
def ofOption {α : Type} (write : α → Json) : Option α → Json
  | none => null
  | some a => write a

/-- A field that is left out when there is no value. -/
def optionalField {α : Type} (name : String) (write : α → Json) :
    Option α → List (String × Json)
  | none => []
  | some a => [(name, write a)]

@[simp] theorem field?_nil (name : String) : field? name [] = none := rfl

theorem field?_cons (name : String) (f : String × Json) (fs : List (String × Json)) :
    field? name (f :: fs) = if f.1 = name then some f.2 else field? name fs := rfl

theorem field?_append (name : String) (fs gs : List (String × Json)) :
    field? name (fs ++ gs) = (field? name fs).or (field? name gs) := by
  induction fs with
  | nil => simp
  | cons f fs ih =>
    by_cases h : f.1 = name <;> simp [field?_cons, h, ih]

theorem field?_optionalField {α : Type} (name : String) (write : α → Json) (a : Option α)
    (other : String) :
    field? other (optionalField name write a) = if name = other then a.map write else none := by
  cases a with
  | none => simp [optionalField]
  | some a => simp [optionalField, field?_cons]

/-- A field that is put in is found again, and no other field changes. -/
theorem field?_insertField (name : String) (value : Json) (fs : List (String × Json))
    (other : String) :
    field? other (insertField name value fs) =
      if other = name then some value else field? other fs := by
  induction fs with
  | nil =>
    by_cases h : other = name
    · simp [insertField, field?_cons, h]
    · simp [insertField, field?_cons, h, Ne.symm h]
  | cons f fs ih =>
    unfold insertField
    split
    · by_cases h : other = name
      · simp [field?_cons, h]
      · simp [field?_cons, h, Ne.symm h]
    · split
      · rename_i hf
        by_cases h : other = name
        · simp [field?_cons, h]
        · simp [field?_cons, hf, h, Ne.symm h]
      · rename_i hf
        by_cases h : other = name
        · subst h
          simp [field?_cons, hf, ih]
        · simp [field?_cons, ih, h]

end Json

end SyncLedger
