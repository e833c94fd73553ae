import SyncLedger.Json.Basic
import SyncLedger.Number.Shortest

/-!
# Writing structured data

`Json.render` writes a value on one line without spaces. Only the characters that a
string cannot hold as they are are escaped; a floating-point number that is not finite
is written as `null`, because there is no number for it.
-/

namespace SyncLedger.Json

/-- One character inside a string. -/
def escapeChar (c : Char) : List Char :=
  if c = '"' then ['\\', '"']
  else if c = '\\' then ['\\', '\\']
  else if c = '\n' then ['\\', 'n']
  else if c = '\r' then ['\\', 'r']
  else if c = '\t' then ['\\', 't']
  else if c.toNat < 0x20 then
    '\\' :: 'u' :: '0' :: '0' :: [Nat.digitChar (c.toNat / 16), Nat.digitChar (c.toNat % 16)]
  else [c]

/-- A string in quotes. -/
def renderString (s : String) : String :=
  String.ofList ('"' :: (s.toList.flatMap escapeChar ++ ['"']))

mutual

/-- A value as text. -/
def render : Json → String
  | null => "null"
  | bool b => if b then "true" else "false"
  | int n => toString n
  | float x => if x.isFinite then x.text else "null"
  | str s => renderString s
  | char c => renderString (String.singleton c)
  | arr items => "[" ++ String.intercalate "," (renderItems items) ++ "]"
  | obj fields => "\x7b" ++ String.intercalate "," (renderFields fields) ++ "\x7d"

/-- The values of a list as texts. -/
def renderItems : List Json → List String
  | [] => []
  | j :: js => render j :: renderItems js

/-- The fields of an object as texts. -/
def renderFields : List (String × Json) → List String
  | [] => []
  | f :: fs => (renderString f.1 ++ ":" ++ render f.2) :: renderFields fs

end

end SyncLedger.Json
