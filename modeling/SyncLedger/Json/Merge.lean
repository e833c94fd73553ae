import SyncLedger.Json.Basic

/-!
# Merging structured data

Settings come in layers, of which a later one counts more. Objects are merged field by
field; every other value takes the place of what was there. This is how the settings library
merges layers, and it is taken as given.
-/

namespace SyncLedger.Json

mutual

/-- The data of two layers. The second argument is the layer on top. -/
def merge (below : Json) : Json → Json
  | obj gs =>
    match below with
    | obj fs => obj (mergeFields fs gs)
    | _ => obj gs
  | j => j

/-- The fields of two layers. -/
def mergeFields (fs : List (String × Json)) : List (String × Json) → List (String × Json)
  | [] => fs
  | g :: gs =>
    let value := match field? g.1 fs with
      | some j => merge j g.2
      | none => g.2
    mergeFields (insertField g.1 value fs) gs

end

@[simp] theorem merge_obj (fs gs : List (String × Json)) :
    merge (obj fs) (obj gs) = obj (mergeFields fs gs) := by simp [merge]

@[simp] theorem mergeFields_nil (fs : List (String × Json)) : mergeFields fs [] = fs := by
  simp [mergeFields]

/-- A value inside objects with one field each, whose names are given from the outermost
to the innermost one. -/
def nest (names : List String) (j : Json) : Json :=
  names.foldr (fun name j => obj [(name, j)]) j

@[simp] theorem nest_nil (j : Json) : nest [] j = j := rfl

@[simp] theorem nest_cons (name : String) (names : List String) (j : Json) :
    nest (name :: names) j = obj [(name, nest names j)] := rfl

end SyncLedger.Json
