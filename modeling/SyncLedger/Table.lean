/-!
# Tables

A `Table κ ν` is a finite map with its entries in the order in which their keys were
first written. The statuses of a run, the remembered flag values and the records of the
status service are tables. `get?` is the view that the other operations are described
by; `toList` shows the order.
-/

namespace SyncLedger

/-- A finite map: the entries in order of first writing, no key twice. -/
structure Table (κ : Type) (ν : Type) where
  /-- The entries in order of first writing. -/
  entries : List (κ × ν)
  /-- No key occurs twice. -/
  nodup : (entries.map Prod.fst).Nodup

namespace Table

variable {κ ν : Type} [DecidableEq κ]

/-- The value of the first entry with the key. -/
def lookup (k : κ) : List (κ × ν) → Option ν
  | [] => none
  | e :: es => if e.1 = k then some e.2 else lookup k es

/-- Replaces the value of the key where it stands, or appends a new entry. -/
def put (k : κ) (v : ν) : List (κ × ν) → List (κ × ν)
  | [] => [(k, v)]
  | e :: es => if e.1 = k then (k, v) :: es else e :: put k v es

theorem mem_keys_put (k : κ) (v : ν) (es : List (κ × ν)) (a : κ) :
    a ∈ (put k v es).map Prod.fst ↔ a = k ∨ a ∈ es.map Prod.fst := by
  induction es with
  | nil => simp [put]
  | cons e es ih =>
    by_cases h : e.1 = k
    · subst h; simp [put]
    · simp only [put, h, ↓reduceIte, List.map_cons, List.mem_cons, ih]
      exact or_left_comm

theorem nodup_put (k : κ) (v : ν) {es : List (κ × ν)} (hes : (es.map Prod.fst).Nodup) :
    ((put k v es).map Prod.fst).Nodup := by
  induction es with
  | nil => simp [put]
  | cons e es ih =>
    rw [List.map_cons, List.nodup_cons] at hes
    by_cases h : e.1 = k
    · subst h; simpa [put] using hes
    · simp only [put, if_neg h, List.map_cons, List.nodup_cons, mem_keys_put]
      exact ⟨fun hk => hk.elim h hes.1, ih hes.2⟩

theorem lookup_put (k : κ) (v : ν) (es : List (κ × ν)) (a : κ) :
    lookup a (put k v es) = if a = k then some v else lookup a es := by
  induction es with
  | nil => simp [put, lookup, eq_comm]
  | cons e es ih =>
    by_cases h : e.1 = k
    · subst h
      by_cases ha : a = e.1 <;> simp [put, lookup, ha, eq_comm]
    · by_cases ha : e.1 = a
      · subst ha; simp [put, lookup, h]
      · simp [put, lookup, h, ha, ih]

/-- The table without entries. -/
def empty : Table κ ν := ⟨[], List.nodup_nil⟩

instance : Inhabited (Table κ ν) := ⟨empty⟩

/-- The value under a key. -/
def get? (t : Table κ ν) (k : κ) : Option ν := lookup k t.entries

/-- Writes the value of a key; a new key comes last. -/
def insert (t : Table κ ν) (k : κ) (v : ν) : Table κ ν :=
  ⟨put k v t.entries, nodup_put k v t.nodup⟩

/-- The entries in order of first writing. -/
def toList (t : Table κ ν) : List (κ × ν) := t.entries

/-- The number of keys. -/
def size (t : Table κ ν) : Nat := t.entries.length

/-- No key has a value. -/
def isEmpty (t : Table κ ν) : Bool := t.entries.isEmpty

@[simp] theorem get?_empty (k : κ) : (empty : Table κ ν).get? k = none := rfl

theorem get?_insert (t : Table κ ν) (k : κ) (v : ν) (a : κ) :
    (t.insert k v).get? a = if a = k then some v else t.get? a :=
  lookup_put k v t.entries a

@[simp] theorem get?_insert_self (t : Table κ ν) (k : κ) (v : ν) :
    (t.insert k v).get? k = some v := by
  simp [get?_insert]

/-- An entry is in the table exactly if its value is found under its key. -/
theorem mem_toList_iff (t : Table κ ν) (k : κ) (v : ν) :
    (k, v) ∈ t.toList ↔ t.get? k = some v := by
  obtain ⟨es, hes⟩ := t
  simp only [toList, get?]
  induction es with
  | nil => simp [lookup]
  | cons e es ih =>
    rw [List.map_cons, List.nodup_cons] at hes
    by_cases h : e.1 = k
    · subst h
      have hmem : (e.1, v) ∉ es := fun hm =>
        hes.1 (List.mem_map.mpr ⟨(e.1, v), hm, rfl⟩)
      simp [lookup, hmem, Prod.ext_iff, eq_comm]
    · simp [lookup, h, ih hes.2, Prod.ext_iff, Ne.symm h]

end Table

end SyncLedger
