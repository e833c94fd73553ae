/-!
# Gaps between tokens

In a TOML text, spaces and tabs separate the tokens of a line, and a comment may stand
at its end. Inside a list a line may end between any two tokens. A line ends with a line
feed, which may have a carriage return before it; a carriage return alone is no end. All
this is given by the format.
-/

namespace SyncLedger.Toml

/-- A space or a tab. -/
def isSpace (c : Char) : Bool := c = ' ' || c = '\t'

/-- A character that may stand in a comment: no control character but the tab. -/
def isPlain (c : Char) : Bool := c = '\t' || (0x20 ≤ c.toNat && c.toNat != 0x7F)

/-- Drops the spaces and tabs at the front. -/
def skipSpaces (cs : List Char) : List Char := cs.dropWhile isSpace

/-- What follows the end of a line. -/
def newline? : List Char → Option (List Char)
  | '\n' :: r => some r
  | '\r' :: '\n' :: r => some r
  | _ => none

/-- What follows a line of which only spaces and a comment are left. The last line needs
no end. -/
def lineEnd? (cs : List Char) : Option (List Char) :=
  let rest := match skipSpaces cs with
    | '#' :: r => r.dropWhile isPlain
    | r => r
  if rest.isEmpty then some [] else newline? rest

/-- Drops spaces and ends of lines. -/
def skipLines : List Char → List Char
  | '\n' :: r => skipLines r
  | '\r' :: '\n' :: r => skipLines r
  | c :: r => if isSpace c then skipLines r else c :: r
  | [] => []

/-- Drops spaces, ends of lines and comments. `inComment` says that a comment has begun
and goes on to the end of its line. -/
def skipGaps (inComment : Bool) : List Char → List Char
  | '\n' :: r => skipGaps false r
  | '\r' :: '\n' :: r => skipGaps false r
  | c :: r =>
    if inComment then (if isPlain c then skipGaps true r else c :: r)
    else if isSpace c then skipGaps false r
    else if c = '#' then skipGaps true r
    else c :: r
  | [] => []

end SyncLedger.Toml
