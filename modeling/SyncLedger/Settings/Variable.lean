import SyncLedger.Json.Merge
import SyncLedger.Json.Reader
import SyncLedger.Text.Blank
import SyncLedger.Text.Bytes
import SyncLedger.Toml.Path

/-!
# Settings in environment variables

A variable whose name begins with `REPLICATION_CONFIG_`, in either case, sets a value.
The rest of the name says which one: two underscores or a point separate the names of
the sections around it. The text of the variable is a truth value, a number, a string, a
list in brackets or a table in braces; a text that is none of these stands for itself.

The program chooses the beginning of the names and the two underscores. All else is how the
settings library reads variables, and is taken as given: the point as a separator, case and
blanks in names (`path?`), and the grammar of values (`value?`), with an oddity of its strings
that `string?` describes.
-/

namespace SyncLedger.Variable

open Text

/-! ## Names -/

/-- The beginning of the names of variables that set something. -/
def family : List Char := "replication_config_".toList

/-- The parts of a name between its separators. -/
def segments : List Char → List (List Char)
  | [] => [[]]
  | '_' :: '_' :: r => [] :: segments r
  | c :: r =>
    if c = '.' then [] :: segments r
    else
      match segments r with
      | s :: ss => (c :: s) :: ss
      | [] => [[c]]

/-- Where the value of a variable belongs: nowhere if the variable is of another family
or a part of its name is empty. -/
def path? (name : String) : Option (List String) :=
  let cs := (trim name.toList).map Char.toLower
  if family.isPrefixOf cs then
    let parts := segments (trim (cs.drop family.length))
    if parts.any List.isEmpty then none else some (parts.map String.ofList)
  else none

/-! ## Values -/

/-- Drops the blanks at the front. -/
def skip (cs : List Char) : List Char := cs.dropWhile isAsciiBlank

/-- A decimal number with at least one digit before or after its point. -/
def decimal? (cs : List Char) : Option Binary64 :=
  let (negative, r) := match cs with
    | '-' :: r => (true, r)
    | '+' :: r => (false, r)
    | r => (false, r)
  let whole := r.takeWhile Char.isDigit
  let (frac, r) := match r.drop whole.length with
    | '.' :: r => (r.takeWhile Char.isDigit, r.dropWhile Char.isDigit)
    | r => ([], r)
  if whole.isEmpty && frac.isEmpty then none
  else
    match Json.exponent? r with
    | some (exp, []) =>
      let e := exp.getD 0 - frac.length
      some (Binary64.ofDecimal negative (decimalValue (whole ++ frac)) e)
    | _ => none

/-- A text without structure: a number if it is one. Only a text with a point is read as
a floating-point number. -/
def ofWord (text : List Char) : Json :=
  let cs := trim text
  match (if cs.contains '.' then decimal? cs else none), unsigned? cs, signed? cs with
  | some x, _, _ => .float x
  | none, some n, _ => .int n
  | none, none, some n => .int n
  | none, none, none => .str (String.ofList cs)

/-- A character that ends a text without structure. -/
def isMark (c : Char) : Bool :=
  c = ',' || c = '[' || c = ']' || c = '\x7b' || c = '\x7d'

/-- The rest of a list, after its bracket or a comma. The closing bracket may follow a
comma at once. Every step reads a character. -/
def items? (value? : List Char → Option (Json × List Char)) :
    Nat → List Char → Option (List Json × List Char)
  | 0, _ => none
  | n + 1, cs =>
    match cs with
    | ']' :: r => some ([], r)
    | _ =>
      (value? cs).bind fun p =>
        match p.2 with
        | ',' :: r => (items? value? n r).map fun q => (p.1 :: q.1, q.2)
        | ']' :: r => some ([p.1], r)
        | _ => none

/-- The rest of a string in quotation marks. An escape makes a new text of what stands
before it, the length of which is counted in characters and taken in bytes: of `n`
characters before the first escape only those in the first `n` bytes are kept. The settings
library does so; no rule of the program depends on it. -/
def string? (cs : List Char) : Option (String × List Char) :=
  (Toml.basicString? cs).map fun p =>
    let before := (cs.take (cs.length - (p.2.length + 1))).takeWhile (· ≠ '\\')
    if before.length + p.2.length + 1 = cs.length then p
    else
      let after := p.1.toList.drop before.length
      (String.ofList (takeBytes before.length before ++ after), p.2)

/-- A key, in quotation marks or bare, and the blanks around it. -/
def key? (cs : List Char) : Option (String × List Char) :=
  let key := match skip cs with
    | '"' :: r => string? r
    | r => Toml.bareWord? r
  key.map fun k => (k.1, skip k.2)

/-- The rest of a table, after its brace or a comma. The closing brace may follow a comma
at once. Every step reads a character. -/
def fields? (value? : List Char → Option (Json × List Char)) :
    Nat → List Char → Option (List (String × Json) × List Char)
  | 0, _ => none
  | n + 1, cs =>
    match cs with
    | '\x7d' :: r => some ([], r)
    | _ =>
      (key? cs).bind fun k =>
        match k.2 with
        | '=' :: r =>
          (value? r).bind fun p =>
            match p.2 with
            | ',' :: r => (fields? value? n r).map fun q => ((k.1, p.1) :: q.1, q.2)
            | '\x7d' :: r => some ([(k.1, p.1)], r)
            | _ => none
        | _ => none

/-- A value and the blanks around it. Every level of nesting reads a character. -/
def value? : Nat → List Char → Option (Json × List Char)
  | 0, _ => none
  | n + 1, cs =>
    let value : Option (Json × List Char) := match skip cs with
      | 't' :: 'r' :: 'u' :: 'e' :: r => some (.bool true, r)
      | 'f' :: 'a' :: 'l' :: 's' :: 'e' :: r => some (.bool false, r)
      | '[' :: r => (items? (value? n) (r.length + 1) r).map fun p => (.arr p.1, p.2)
      | '\x7b' :: r =>
        (fields? (value? n) (r.length + 1) r).map fun p => (Json.ofFields p.1, p.2)
      | '"' :: r => (string? r).map fun p => (.str p.1, p.2)
      | '\'' :: c :: '\'' :: r => some (.char c, r)
      | '\'' :: _ => none
      | r =>
        let text := r.takeWhile fun c => !isMark c
        some (ofWord text, r.drop text.length)
    value.map fun p => (p.1, skip p.2)

/-- What the text of a variable stands for. -/
def value (text : String) : Json :=
  let cs := text.toList
  match value? (cs.length + 1) cs with
  | some (j, []) => j
  | _ => .str text

/-! ## Settings -/

/-- The settings of one variable on top of the ones before it. -/
def apply (tree : Json) (name text : String) : Json :=
  match path? name with
  | some names => tree.merge (Json.nest names (value text))
  | none => tree

/-- The settings of variables, of which a later one counts more. -/
def tree (vs : List (String × String)) : Json :=
  vs.foldl (fun tree v => apply tree v.1 v.2) (.obj [])

end SyncLedger.Variable
