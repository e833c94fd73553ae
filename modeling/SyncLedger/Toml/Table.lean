import SyncLedger.Json.Basic
import SyncLedger.Toml.Path

/-!
# Tables

A TOML text gives the entries of its tables in any order, and a table may be reached in
several ways. What may still be added to it depends on how it came about: a header names
it, the header of a table further inside implies it, or the dotted key of an entry does.
Every table has one header at most, and dotted keys lead only into tables without a
header.

The format leaves room for doubt where dotted keys meet tables that a header implied. There the
library that reads TOML is followed, and taken as given: they may go through such a table, but
not end in it (`Entries.add?`).
-/

namespace SyncLedger.Toml

/-- How a table came about. -/
inductive Origin where
  /-- A header names it. -/
  | header
  /-- It lies on the way to the table of a header. -/
  | implied
  /-- It lies on the way of a dotted key. -/
  | dotted
deriving DecidableEq

/-- What a key stands for: a value, a table, or a list of tables, which has at least one
and ends with the one that is being filled. -/
inductive Node where
  | value (j : Json)
  | table (origin : Origin) (entries : List (String × Node))
  | tables (before : List (List (String × Node))) (last : List (String × Node))

/-- The entries of a table. -/
abbrev Entries := List (String × Node)

namespace Entries

/-- What a key stands for. -/
def get? (name : String) : Entries → Option Node
  | [] => none
  | e :: es => if e.1 = name then some e.2 else get? name es

/-- Gives a key a meaning, in place of the one it had. -/
def set (name : String) (node : Node) : Entries → Entries
  | [] => [(name, node)]
  | e :: es => if e.1 = name then (name, node) :: es else e :: set name node es

@[simp] theorem get?_nil (name : String) : get? name [] = none := rfl

theorem get?_cons (name : String) (e : String × Node) (es : Entries) :
    get? name (e :: es) = if e.1 = name then some e.2 else get? name es := rfl

/-- The new meaning is the one that is found, and no other key changes. -/
theorem get?_set (name other : String) (node : Node) (es : Entries) :
    get? other (set name node es) = if name = other then some node else get? other es := by
  induction es with
  | nil => simp [set, get?_cons]
  | cons e es ih =>
    unfold set
    split
    · rename_i he
      by_cases h : name = other
      · simp [get?_cons, h]
      · simp [get?_cons, h, he]
    · rename_i he
      by_cases h : name = other
      · subst h
        simp [get?_cons, he, ih]
      · simp [get?_cons, h, ih]

/-- Changes the table at the end of a way of headers. Tables that are missing on the way
are implied. -/
def modify? (change : Entries → Option Entries) : List String → Entries → Option Entries
  | [], es => change es
  | k :: ks, es =>
    match get? k es with
    | none => (modify? change ks []).map fun t => set k (.table .implied t) es
    | some (.value _) => none
    | some (.table origin t) => (modify? change ks t).map fun t => set k (.table origin t) es
    | some (.tables before t) => (modify? change ks t).map fun t => set k (.tables before t) es

/-- Begins the table of a header. Only an implied one may be there already. -/
def begin? (name : String) (es : Entries) : Option Entries :=
  match get? name es with
  | none => some (set name (.table .header []) es)
  | some (.table .implied t) => some (set name (.table .header t) es)
  | _ => none

/-- Begins one more table of a list of tables. -/
def beginItem? (name : String) (es : Entries) : Option Entries :=
  match get? name es with
  | none => some (set name (.tables [] []) es)
  | some (.tables before last) => some (set name (.tables (before ++ [last]) []) es)
  | _ => none

/-- Adds an entry to a table that has none of its name. `isOpen` says whether the table
takes entries. -/
def put? (isOpen : Bool) (name : String) (j : Json) (es : Entries) : Option Entries :=
  if isOpen && (get? name es).isNone then some (set name (.value j) es) else none

/-- Adds an entry at the end of a way of dotted keys. Only a table that came about by
dotted keys takes it, or the one where the way starts. -/
def add? (isOpen : Bool) : List String → String → Json → Entries → Option Entries
  | [], name, j, es => put? isOpen name j es
  | k :: ks, name, j, es =>
    match get? k es with
    | none => (add? true ks name j []).map fun t => set k (.table .dotted t) es
    | some (.table .header _) => none
    | some (.table origin t) =>
      (add? (origin = .dotted) ks name j t).map fun t => set k (.table origin t) es
    | some (.tables before t) => (add? false ks name j t).map fun t => set k (.tables before t) es
    | some (.value _) => none

end Entries

mutual

/-- What a key stands for, as data. -/
def Node.json : Node → Json
  | .value j => j
  | .table _ es => Json.ofFields (fields es)
  | .tables before last => .arr (items before ++ [Json.ofFields (fields last)])

/-- The entries of a table, as data. -/
def fields : List (String × Node) → List (String × Json)
  | [] => []
  | e :: es => (e.1, e.2.json) :: fields es

/-- The tables of a list, as data. -/
def items : List (List (String × Node)) → List Json
  | [] => []
  | t :: ts => Json.ofFields (fields t) :: items ts

end

/-- A table as data. -/
def Entries.json (es : Entries) : Json := Json.ofFields (fields es)

end SyncLedger.Toml
