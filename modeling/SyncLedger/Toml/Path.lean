import SyncLedger.Toml.Quoted

/-!
# Keys and paths

A key is a bare word or a string on one line. Keys with points between them are a path:
the keys before the last one name tables inside each other. The format sets no limit to the
length of a path; the one here (`depthLimit`) is taken as given from the library that reads TOML.
-/

namespace SyncLedger.Toml

/-- A way to an entry: the names of the tables around it, the outermost one first, and
its own name. -/
structure Path where
  tables : List String
  name : String
deriving DecidableEq

namespace Path

/-- The path with one more table around it. -/
def within (table : String) (p : Path) : Path := ⟨table :: p.tables, p.name⟩

/-- All names of a path. -/
def keys (p : Path) : List String := p.tables ++ [p.name]

@[simp] theorem keys_within (table : String) (p : Path) :
    (p.within table).keys = table :: p.keys := rfl

end Path

/-- A character of a key without quotes. -/
def isBare (c : Char) : Bool := c.isAlphanum || c = '_' || c = '-'

/-- A word of the characters that need no quotes. -/
def bareWord? (cs : List Char) : Option (String × List Char) :=
  let word := cs.takeWhile isBare
  if word.isEmpty then none else some (String.ofList word, cs.drop word.length)

/-- A key. -/
def key? : List Char → Option (String × List Char)
  | '"' :: r => basicString? r
  | '\'' :: r => literalString? r
  | cs => bareWord? cs

/-- A path of at most the given number of keys, and the spaces around them. -/
def path? : Nat → List Char → Option (Path × List Char)
  | 0, _ => none
  | n + 1, cs =>
    (key? (skipSpaces cs)).bind fun k =>
      match skipSpaces k.2 with
      | '.' :: r => (path? n r).map fun p => (p.1.within k.1, p.2)
      | r => some (⟨[], k.1⟩, r)

/-- A path has fewer than 80 keys, and values are nested less than 80 deep. -/
def depthLimit : Nat := 79

end SyncLedger.Toml
