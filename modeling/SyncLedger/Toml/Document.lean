import SyncLedger.Toml.Value

/-!
# Documents

A TOML document is a sequence of lines. A header in brackets begins a table, one in
double brackets the next table of a list, and an entry belongs to the table of the header
before it. `parse?` reads the lines and then builds the tables from them.

The program leaves reading to a TOML library. The modules below `SyncLedger.Toml` describe what
texts that library accepts and what data it finds in them, and take it as given: they follow
version 1.0 of the format and, where that leaves a choice, the library. Such choices are how
deep values may be nested (`depthLimit`), what becomes of a number that is too large, and which
tables a dotted key may still enter.
-/

namespace SyncLedger.Toml

/-- A line that says something. -/
inductive Line where
  | header (path : Path)
  | itemHeader (path : Path)
  | entry (path : Path) (value : Json)

/-- The rest of a header with the given closing brackets, and of its line. -/
def header? (line : Path → Line) (close : List Char) (cs : List Char) :
    Option (Line × List Char) :=
  (path? depthLimit cs).bind fun p =>
    if close.isPrefixOf p.2 then
      (lineEnd? (p.2.drop close.length)).map fun r => (line p.1, r)
    else none

/-- An entry and the rest of its line. -/
def entryLine? (cs : List Char) : Option (Line × List Char) :=
  (assignment? (value? depthLimit) cs).bind fun p =>
    (lineEnd? p.2).map fun r => (.entry p.1.1 p.1.2, r)

/-- A line that begins with a token, and what follows it. -/
def line? : List Char → Option (Line × List Char)
  | '[' :: '[' :: r => header? .itemHeader [']', ']'] r
  | '[' :: r => header? .header [']'] r
  | cs => entryLine? cs

/-- The lines that say something. Every step reads a line. -/
def documentLines? : Nat → List Char → Option (List Line)
  | 0, _ => none
  | n + 1, cs =>
    match skipLines cs with
    | [] => some []
    | '#' :: r => (lineEnd? ('#' :: r)).bind (documentLines? n)
    | r => (line? r).bind fun p => (documentLines? n p.2).map (p.1 :: ·)

/-- A document that is being built: its tables, and the keys of the table to which
entries belong. -/
structure Draft where
  root : Entries
  current : List String

namespace Draft

/-- No tables yet; entries belong to the document itself. -/
def empty : Draft := ⟨[], []⟩

/-- What a line adds. -/
def step? (d : Draft) : Line → Option Draft
  | .header p => (d.root.modify? (Entries.begin? p.name) p.tables).map fun es => ⟨es, p.keys⟩
  | .itemHeader p =>
    (d.root.modify? (Entries.beginItem? p.name) p.tables).map fun es => ⟨es, p.keys⟩
  | .entry p j =>
    (d.root.modify? (Entries.add? true p.tables p.name j) d.current).map fun es =>
      { d with root := es }

end Draft

/-- The tables that lines describe. -/
def ofLines? (lines : List Line) : Option Json :=
  (lines.foldlM Draft.step? Draft.empty).map fun d => d.root.json

/-- Drops a byte-order mark at the front. -/
def skipMark : List Char → List Char
  | '\ufeff' :: r => r
  | cs => cs

/-- The data that a text holds. -/
def parse? (s : String) : Option Json :=
  let cs := skipMark s.toList
  (documentLines? (cs.length + 1) cs).bind ofLines?

end SyncLedger.Toml
