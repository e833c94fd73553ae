import SyncLedger.Text.Digits

/-!
# Identifiers of 128 bits

Workspaces, connections and status records are named by numbers of 128 bits. They are
ordered as numbers, written as 32 lower-case hexadecimal digits in five groups, and read
in four forms: grouped, without hyphens, grouped in braces, and grouped after `urn:uuid:`.
Order and forms are those of the library for such identifiers, taken as given.
-/

namespace SyncLedger

/-- A 128-bit identifier. -/
structure Uuid where
  /-- The identifier as a number. -/
  bits : BitVec 128
deriving DecidableEq, Inhabited

namespace Uuid

/-- The identifier with a given number. -/
def ofNat (n : Nat) : Uuid := ⟨BitVec.ofNat 128 n⟩

/-- The number of an identifier. -/
def toNat (u : Uuid) : Nat := u.bits.toNat

/-- A digit in lower-case hexadecimal. -/
def hexDigit (n : Nat) : Char := Nat.digitChar (n % 16)

/-- The lowest `width` hexadecimal digits of a number, the first one of most weight. -/
def hexDigits : Nat → Nat → List Char
  | 0, _ => []
  | width + 1, n => hexDigits width (n / 16) ++ [hexDigit n]

/-- The lengths of the five groups. -/
def groups : List Nat := [8, 4, 4, 4, 12]

/-- Digits in groups of the given lengths, with hyphens between them. -/
def hyphenated : List Nat → List Char → List Char
  | [], _ => []
  | [n], ds => ds.take n
  | n :: m :: ns, ds => ds.take n ++ '-' :: hyphenated (m :: ns) (ds.drop n)

/-- The characters of an identifier. -/
def write (u : Uuid) : List Char := hyphenated groups (hexDigits 32 u.toNat)

/-- The text of an identifier. -/
def text (u : Uuid) : String := String.ofList (write u)

/-- The digits of a text in groups of the given lengths, with hyphens between them. -/
def unhyphenated? : List Nat → List Char → Option (List Char)
  | [], cs => if cs.isEmpty then some [] else none
  | [n], cs => if cs.length = n then some cs else none
  | n :: m :: ns, cs =>
    match cs.drop n with
    | '-' :: r => (unhyphenated? (m :: ns) r).map (cs.take n ++ ·)
    | _ => none

/-- An identifier written in five groups. -/
def grouped? (cs : List Char) : Option Uuid :=
  (unhyphenated? groups cs).bind fun ds => (Text.hexNumber? 0 ds).map ofNat

/-- The mark of the last form, which may be in either case. -/
def urnMark : List Char := "urn:uuid:".toList

/-- The identifier that a text denotes. -/
def read? (cs : List Char) : Option Uuid :=
  if cs.length = 32 then (Text.hexNumber? 0 cs).map ofNat
  else
    match cs with
    | '\x7b' :: r =>
      if r.getLast? = some '\x7d' then grouped? r.dropLast else none
    | _ =>
      if (cs.take urnMark.length).map Char.toLower = urnMark then grouped? (cs.drop urnMark.length)
      else grouped? cs

/-- The identifier that a string denotes. -/
def parse? (s : String) : Option Uuid := read? s.toList

instance : LT Uuid := ⟨fun a b => a.toNat < b.toNat⟩

instance (a b : Uuid) : Decidable (a < b) := inferInstanceAs (Decidable (a.toNat < b.toNat))

end Uuid

end SyncLedger
