import SyncLedger.Text.Digits
import SyncLedger.Toml.Gap

/-!
# Strings

A TOML string stands between quotation marks, where a backslash escapes, or between
apostrophes, where nothing does. Marks written three times enclose a string of several
lines: an end of line right after the opening marks does not count, every other one is a
line feed, and up to two marks in a row are text. Between three quotation marks a
backslash at the end of a line joins it to the next text. These rules and the escapes are given
by version 1.0 of the format.
-/

namespace SyncLedger.Toml

open Text

/-- The character with the number that `count` hexadecimal digits give. -/
def numbered? (count : Nat) (cs : List Char) : Option (Char × List Char) :=
  if count ≤ cs.length then
    (hexNumber? 0 (cs.take count)).bind fun n =>
      if n.isValidChar then some (Char.ofNat n, cs.drop count) else none
  else none

/-- The character of an escape, after its backslash. -/
def escaped? : List Char → Option (Char × List Char)
  | '"' :: r => some ('"', r)
  | '\\' :: r => some ('\\', r)
  | 'b' :: r => some ('\x08', r)
  | 'f' :: r => some ('\x0c', r)
  | 'n' :: r => some ('\n', r)
  | 'r' :: r => some ('\r', r)
  | 't' :: r => some ('\t', r)
  | 'u' :: r => numbered? 4 r
  | 'U' :: r => numbered? 8 r
  | _ => none

/-- The rest of a string in quotation marks, after the first one, and what follows it.
`acc` holds the characters read so far, the last one first. -/
def basic? : Nat → List Char → List Char → Option (String × List Char)
  | 0, _, _ => none
  | n + 1, acc, cs =>
    match cs with
    | '"' :: r => some (String.ofList acc.reverse, r)
    | '\\' :: r => (escaped? r).bind fun p => basic? n (p.1 :: acc) p.2
    | c :: r => if isPlain c then basic? n (c :: acc) r else none
    | [] => none

/-- The rest of a string in quotation marks. Every step reads a character. -/
def basicString? (cs : List Char) : Option (String × List Char) := basic? (cs.length + 1) [] cs

/-- The rest of a string in apostrophes. -/
def literalString? (cs : List Char) : Option (String × List Char) :=
  let text := cs.takeWhile fun c => isPlain c && c != '\''
  match cs.drop text.length with
  | '\'' :: r => some (String.ofList text, r)
  | _ => none

/-- What follows a backslash at the end of a line, and the spaces and lines after it. -/
def joined? (cs : List Char) : Option (List Char) :=
  (newline? (skipSpaces cs)).map skipLines

/-- The rest of a string of several lines, after its three opening marks. A row of at
least three marks ends it; of a longer row at most the first two marks are text. -/
def lines? (mark : Char) : Nat → List Char → List Char → Option (String × List Char)
  | 0, _, _ => none
  | n + 1, acc, cs =>
    match cs with
    | [] => none
    | c :: r =>
      if c = mark then
        let row := (cs.takeWhile (· = mark)).length
        if row < 3 then lines? mark n (List.replicate row mark ++ acc) (cs.drop row)
        else
          let text := acc.reverse ++ List.replicate (min (row - 3) 2) mark
          some (String.ofList text, cs.drop (min row 5))
      else if c = '\\' ∧ mark = '"' then
        match joined? r with
        | some r => lines? mark n acc r
        | none => (escaped? r).bind fun p => lines? mark n (p.1 :: acc) p.2
      else if isPlain c then lines? mark n (c :: acc) r
      else (newline? cs).bind fun r => lines? mark n ('\n' :: acc) r

/-- The rest of a string of several lines. -/
def multiline? (mark : Char) (cs : List Char) : Option (String × List Char) :=
  lines? mark (cs.length + 1) [] ((newline? cs).getD cs)

/-- A string of any kind. -/
def string? : List Char → Option (String × List Char)
  | '"' :: '"' :: '"' :: r => multiline? '"' r
  | '\'' :: '\'' :: '\'' :: r => multiline? '\'' r
  | '"' :: r => basicString? r
  | '\'' :: r => literalString? r
  | _ => none

end SyncLedger.Toml
