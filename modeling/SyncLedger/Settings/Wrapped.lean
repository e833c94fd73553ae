import SyncLedger.Json.Basic

/-!
# Wrapped values

In a settings file a table may carry the value that it stands for under a key of its own.
Such a table is replaced by that value, whatever else it holds. The key for the origin of
a value is reserved, and a file that uses it is refused. The document itself is a plain
table, in which both keys have no meaning.

Neither key is known to the program. They belong to the settings library, which keeps the
origin of a value in this form, and what it makes of a file that has them is taken as given.
-/

namespace SyncLedger.Json

/-- The key of the value that a table stands for. -/
def wrappedKey : String := "___figment_value_value"

/-- The key that a file must not use. -/
def reservedKey : String := "___figment_value_id"

/-- The value that a table with the given fields stands for. -/
def unwrapped? (fields : List (String × Json)) : Option Json :=
  match field? reservedKey fields with
  | some _ => none
  | none => some ((field? wrappedKey fields).getD (obj fields))

mutual

/-- A value in which all wrapped values are replaced. -/
def unwrap? : Json → Option Json
  | arr items => (unwrapItems? items).map arr
  | obj fields => (unwrapFields? fields).bind unwrapped?
  | j => some j

/-- The values of a list with all wrapped values replaced. -/
def unwrapItems? : List Json → Option (List Json)
  | [] => some []
  | j :: js => (unwrap? j).bind fun j => (unwrapItems? js).map (j :: ·)

/-- The fields of a table with all wrapped values replaced. -/
def unwrapFields? : List (String × Json) → Option (List (String × Json))
  | [] => some []
  | f :: fs => (unwrap? f.2).bind fun j => (unwrapFields? fs).map ((f.1, j) :: ·)

end

/-- A document in which all wrapped values are replaced. -/
def unwrapDocument? : Json → Option Json
  | obj fields => (unwrapFields? fields).map obj
  | j => some j

end SyncLedger.Json
