import SyncLedger.Log.Event
import SyncLedger.Log.Pattern
import SyncLedger.Text.Blank
import SyncLedger.Text.Bytes
import SyncLedger.Text.Digits
import SyncLedger.Text.Letters

/-!
# Log directives

A directive sets the most verbose level that is let through, for all targets or for
those that begin with a name. It is written `level`, `target` or `target=level`. A
target alone lets everything through, and so does an empty level after a target.

In brackets after the target a directive may ask for a span with a name, and in braces
for a field, with a value or without one. What asks for a span or a value only matters
inside of spans; what asks for the mere name of a field also holds for events that have
such a field.

Directives are read by the logging library and not by the program, so their form is taken as
given: this module says which texts that library reads as which directives (`LogDirective.read`),
what each of them is about, and which of two comes first (`LogDirective.precedes`). Its ways are
kept where they surprise, as in the parts that are cut out of a text by the offsets they have
without the blanks around it (`DirectiveText`). What the program makes of directives begins with
`LogFilter.setLevels`.
-/

namespace SyncLedger

/-- The most verbose level that is let through; none if nothing is. -/
abbrev LogLimit := Option LogLevel

namespace LogLimit

/-- How a limit is called. -/
def name : LogLimit → String
  | some level => level.name
  | none => "OFF"

/-- A level is let through. -/
def admits (limit : LogLimit) (level : LogLevel) : Bool :=
  match limit with
  | some most => level.verbosity ≤ most.verbosity
  | none => false

/-- The limits by their numbers. -/
def numbered : List LogLimit :=
  [none, some .error, some .warn, some .info, some .debug, some .trace]

/-- The limit with a number from 0 to 5 or with a name in any case. An empty text is the
error level. -/
def read? (cs : List Char) : Option LogLimit :=
  match (Text.unsigned? cs).bind fun n => numbered[n]? with
  | some limit => some limit
  | none =>
    if cs.isEmpty then some (some .error)
    else numbered.find? fun limit => limit.name.toList = cs.map Char.toUpper

end LogLimit

/-- Why a text is no directive. -/
inductive DirectiveError where
  /-- It does not have the form of one. -/
  | malformed
  /-- What stands for the level is none. -/
  | unknownLevel
deriving DecidableEq

/-- The wording of a refused directive. -/
def DirectiveError.message : DirectiveError → String
  | .malformed => "invalid filter directive"
  | .unknownLevel =>
    "error parsing level filter: expected one of \"off\", \"error\", \"warn\", \"info\", "
      ++ "\"debug\", \"trace\", or a number 0-5"

/-- A field that a directive asks for. -/
structure FieldCondition where
  name : List Char
  /-- The field has to have a certain value. -/
  hasValue : Bool
deriving DecidableEq

namespace FieldCondition

/-- What follows a plus sign in a number. -/
def isMagnitude (cs : List Char) : Bool :=
  let fraction := fun r : List Char => match r.dropWhile Char.isDigit with
    | '.' :: r => r.dropWhile Char.isDigit
    | r => r
  let exponent := fun r : List Char => match r with
    | c :: r => (c = 'e' || c = 'E') && (Text.digits? (unsigned r)).isSome
    | [] => true
  let hasDigit := (cs.takeWhile fun c => c.isDigit || c = '.').any Char.isDigit
  let names := ["inf", "infinity", "nan"].map String.toList
  names.contains (cs.map Char.toLower) || hasDigit && exponent (fraction cs)
where
  /-- A text without the sign at its front. -/
  unsigned : List Char → List Char
    | '+' :: r => r
    | '-' :: r => r
    | r => r

/-- A value is a number or a search pattern. Only a number may begin with a plus sign, and
every other number is a pattern as well. -/
def isValue (cs : List Char) : Bool :=
  match cs with
  | '+' :: r => isMagnitude r
  | cs => Pattern.isWellFormed cs

/-- Reads `name` or `name=value`. What follows a second sign of equality does not count. -/
def read? (cs : List Char) : Option FieldCondition :=
  if cs.isEmpty then none
  else
    let name := cs.takeWhile (· ≠ '=')
    match cs.drop name.length with
    | [] => some ⟨name, false⟩
    | _ :: r => if isValue (r.takeWhile (· ≠ '=')) then some ⟨name, true⟩ else none

end FieldCondition

/-- Sets a limit for all targets, or for those that begin with a name. -/
structure LogDirective where
  target : Option (List Char)
  span : Option (List Char)
  fields : List FieldCondition
  limit : LogLimit
deriving DecidableEq

/-- A text that a directive is read from, with and without the blanks around it. The parts
are found in the second one and cut, by their offsets, out of the first. -/
structure DirectiveText where
  whole : List Char
  body : List Char

namespace DirectiveText

open Text

def ofText (cs : List Char) : DirectiveText := ⟨cs, trim cs⟩

/-- The end of the text, from where only `rest` is left of the body. -/
def onwards (t : DirectiveText) (rest : List Char) : List Char :=
  dropBytes (byteCount t.body - byteCount rest) t.whole

/-- The part of the text between two places, given by what is left of the body. -/
def between (t : DirectiveText) (rest rest' : List Char) : List Char :=
  takeBytes (byteCount rest - byteCount rest') (t.onwards rest)

end DirectiveText

namespace LogDirective

/-- A directive for all targets, or for those that begin with a name. -/
def plain (target : Option (List Char)) (limit : LogLimit) : LogDirective :=
  ⟨target, none, [], limit⟩

/-- A directive begins with a letter, a digit or one of three signs. -/
def mayStart (c : Char) : Bool := c = '-' || c = ':' || c = '_' || Text.isAlphanumeric c

/-- The level after the sign of equality. It ends at a comma, after which nothing may
follow. -/
def level (t : DirectiveText) (cs : List Char) : Except DirectiveError LogLimit :=
  let rest := cs.dropWhile (· ≠ ',')
  let word := if rest.isEmpty then t.onwards cs else t.between cs rest
  match if word.isEmpty then some (some .trace) else LogLimit.read? word with
  | none => .error .unknownLevel
  | some limit => if 1 < rest.length then .error .malformed else .ok limit

/-- The level after what is in brackets, if there is one. -/
def levelAfter (t : DirectiveText) : List Char → Except DirectiveError LogLimit
  | [] => .ok (some .trace)
  | '=' :: r => level t r
  | _ => .error .malformed

/-- A directive with the given target, from its opening bracket on. -/
def bracketed (t : DirectiveText) (target : Option (List Char)) (cs : List Char) :
    Except DirectiveError LogDirective :=
  let rest := cs.dropWhile fun c => c ≠ ']' && c ≠ '\x7b'
  let name := t.between cs rest
  match rest with
  | [] => .error .malformed
  | ']' :: r => (levelAfter t r).map fun limit => ⟨target, some name, [], limit⟩
  | _ :: field =>
    let rest := field.dropWhile (· ≠ '\x7d')
    match FieldCondition.read? (t.between field rest), rest with
    | some condition, _ :: ']' :: r =>
      (levelAfter t r).map fun limit =>
        ⟨target, if name.isEmpty then none else some name, [condition], limit⟩
    | _, _ => .error .malformed

/-- Reads a directive. Blanks around it are skipped when its parts are looked for, but
they count as part of it. -/
def read (cs : List Char) : Except DirectiveError LogDirective :=
  let t := DirectiveText.ofText cs
  let rest := t.body.dropWhile fun c => c ≠ '=' && c ≠ '['
  match t.body with
  | [] => .error .malformed
  | '[' :: r => bracketed t none r
  | c :: _ =>
    if !mayStart c then .error .malformed
    else
      let target := some (t.between t.body rest)
      match rest with
      | '[' :: r => bracketed t target r
      | _ :: r => (level t r).map (plain target)
      | [] =>
        match LogLimit.read? cs with
        | some limit => .ok (plain none limit)
        | none => .ok (plain (some cs) (some .trace))

/-- The directive also holds outside of spans: it asks for none and for no value. -/
def isStatic (d : LogDirective) : Bool := d.span.isNone && d.fields.all fun f => !f.hasValue

/-- The names of the fields that the directive asks for. -/
def fieldNames (d : LogDirective) : List (List Char) := d.fields.map FieldCondition.name

/-- The directive is about a target. -/
def covers (d : LogDirective) (target : List Char) : Bool :=
  match d.target with
  | none => true
  | some start => start.isPrefixOf target

/-- An event with fields of the given names has all that the directive asks for. -/
def isMetBy (d : LogDirective) (names : List (List Char)) : Bool :=
  d.fieldNames.all names.contains

/-- A directive for a longer name is more specific, and one for all targets least. -/
def specificity (d : LogDirective) : Nat :=
  match d.target with
  | none => 0
  | some start => start.length + 1

/-- The first of two directives for a target comes before the second: it is more specific,
asks for more fields or, at last, for fields with later names. -/
def precedes (d e : LogDirective) : Bool :=
  if d.specificity ≠ e.specificity then e.specificity < d.specificity
  else if d.fields.length ≠ e.fields.length then e.fields.length < d.fields.length
  else e.fieldNames < d.fieldNames

/-- Two directives are for the same target and ask for the same fields. -/
def sharesScope (d e : LogDirective) : Bool :=
  d.target = e.target ∧ d.fieldNames = e.fieldNames

end LogDirective

end SyncLedger
