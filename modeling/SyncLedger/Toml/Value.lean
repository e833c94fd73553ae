import SyncLedger.Toml.Moment
import SyncLedger.Toml.Number
import SyncLedger.Toml.Table

/-!
# Values

A TOML value is a truth value, a string, a number, a moment, a list or a table in braces.
A list may go over several lines and end with a comma; a table in braces may not, and its
entries obey the rules of all tables.

How deep values may be nested, and the form in which a moment is handed on (`ofMoment`), is not
part of the format and taken as given from the library that reads TOML.
-/

namespace SyncLedger.Toml

/-- A moment as data. No setting has this form: it is an object with a key that no record
declares. -/
def ofMoment (text : List Char) : Json :=
  .obj [("$__toml_private_datetime", .str (String.ofList text))]

/-- A value without parts. -/
def atom? (cs : List Char) : Option (Json × List Char) :=
  match cs with
  | 't' :: 'r' :: 'u' :: 'e' :: r => some (.bool true, r)
  | 'f' :: 'a' :: 'l' :: 's' :: 'e' :: r => some (.bool false, r)
  | '"' :: _ => (string? cs).map fun p => (.str p.1, p.2)
  | '\'' :: _ => (string? cs).map fun p => (.str p.1, p.2)
  | _ =>
    match moment? cs with
    | some r => some (ofMoment (cs.take (cs.length - r.length)), r)
    | none => number? cs

/-- The rest of a list, after its bracket or a comma. Every step reads a character. -/
def listItems? (value? : List Char → Option (Json × List Char)) :
    Nat → List Char → Option (List Json × List Char)
  | 0, _ => none
  | n + 1, cs =>
    match skipGaps false cs with
    | ']' :: r => some ([], r)
    | r =>
      (value? r).bind fun p =>
        match skipGaps false p.2 with
        | ',' :: r => (listItems? value? n r).map fun q => (p.1 :: q.1, q.2)
        | ']' :: r => some ([p.1], r)
        | _ => none

/-- An entry: a path, an equals sign and a value. -/
def assignment? (value? : List Char → Option (Json × List Char)) (cs : List Char) :
    Option ((Path × Json) × List Char) :=
  (path? depthLimit cs).bind fun p =>
    match p.2 with
    | '=' :: r => (value? (skipSpaces r)).map fun q => ((p.1, q.1), q.2)
    | _ => none

/-- One or more entries with commas between them, and the closing brace. -/
def assignments? (value? : List Char → Option (Json × List Char)) :
    Nat → List Char → Option (List (Path × Json) × List Char)
  | 0, _ => none
  | n + 1, cs =>
    (assignment? value? cs).bind fun p =>
      match skipSpaces p.2 with
      | ',' :: r => (assignments? value? n r).map fun q => (p.1 :: q.1, q.2)
      | '\x7d' :: r => some ([p.1], r)
      | _ => none

/-- The table with the given entries. -/
def tableOf? (entries : List (Path × Json)) : Option Entries :=
  entries.foldlM (fun es e => es.add? true e.1.tables e.1.name e.2) []

/-- The rest of a table in braces. -/
def inlineTable? (value? : List Char → Option (Json × List Char)) (cs : List Char) :
    Option (Json × List Char) :=
  match skipSpaces cs with
  | '\x7d' :: r => some (.obj [], r)
  | r =>
    (assignments? value? (r.length + 1) r).bind fun p =>
      (tableOf? p.1).map fun es => (es.json, p.2)

/-- A value whose parts are nested at most the given number of times. -/
def value? : Nat → List Char → Option (Json × List Char)
  | 0, cs => atom? cs
  | n + 1, cs =>
    match cs with
    | '[' :: r => (listItems? (value? n) (r.length + 1) r).map fun p => (.arr p.1, p.2)
    | '\x7b' :: r => inlineTable? (value? n) r
    | _ => atom? cs

end SyncLedger.Toml
