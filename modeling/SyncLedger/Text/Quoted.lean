import SyncLedger.Text.Glyphs
import SyncLedger.Text.Blank

/-!
# Quoted text

The quoted form of a text, used wherever an error or a log field shows a text inside
another one. A quote and a backslash are written with a backslash, the common control
characters by their letter, and every other character that is not shown as itself by
its number in braces. A single quote stands for itself.
-/

namespace SyncLedger.Text

/-- A character without a glyph of its own, or one that extends the grapheme before it. -/
def needsNumber (c : Char) : Bool :=
  inRanges extenderRanges c.toNat || inRanges glyphlessRanges c.toNat

/-- The number of a character in lower-case hexadecimal, in braces. -/
def numbered (c : Char) : List Char :=
  '\\' :: 'u' :: '\x7b' :: (Nat.toDigits 16 c.toNat ++ ['\x7d'])

/-- One character as it is written inside quotes. -/
def escape (c : Char) : List Char :=
  if c = '\x00' then ['\\', '0']
  else if c = '\t' then ['\\', 't']
  else if c = '\r' then ['\\', 'r']
  else if c = '\n' then ['\\', 'n']
  else if c = '\\' then ['\\', '\\']
  else if c = '"' then ['\\', '"']
  else if needsNumber c then numbered c
  else [c]

/-- The characters between the quotes. -/
def escapeAll (cs : List Char) : List Char := cs.flatMap escape

/-- A text in double quotes. -/
def quote (s : String) : String :=
  String.ofList ('"' :: (escapeAll s.toList ++ ['"']))

/-- A list of texts, each in double quotes, in square brackets. -/
def quoteList (ss : List String) : String :=
  "[" ++ String.intercalate ", " (ss.map quote) ++ "]"

@[simp] theorem escapeAll_nil : escapeAll [] = [] := rfl

@[simp] theorem escapeAll_cons (c : Char) (cs : List Char) :
    escapeAll (c :: cs) = escape c ++ escapeAll cs := rfl

end SyncLedger.Text
