import SyncLedger.Text.Digits

/-!
# Search patterns

A directive may ask for fields whose value matches a search pattern. Whether a pattern is
well formed decides whether the directive counts, so this module says which are: groups
are closed, sets are closed and their ranges ascend, a repetition has something to repeat,
and a backslash stands before a sign or one of a few letters. There is no counted
repetition, because a closing brace ends the field. What depends on tables of letters is
not available: classes of letters, boundaries of words, and matching in either case.

All of this is the syntax of the library that matches patterns, built without those tables. It
is taken as given, and no more of it is described than which patterns it refuses.
-/

namespace SyncLedger.Pattern

/-- The character that an escape stands for, after its backslash. -/
def escaped? : List Char → Option (Char × List Char)
  | 'x' :: r => code? 2 r
  | 'u' :: r => code? 4 r
  | 'U' :: r => code? 8 r
  | 'a' :: r => some ('\x07', r)
  | 'f' :: r => some ('\x0c', r)
  | 't' :: r => some ('\t', r)
  | 'n' :: r => some ('\n', r)
  | 'r' :: r => some ('\r', r)
  | 'v' :: r => some ('\x0b', r)
  | c :: r => if c.toNat < 128 ∧ !c.isAlphanum ∧ c ≠ '<' ∧ c ≠ '>' then some (c, r) else none
  | [] => none
where
  /-- The character with the number that `count` hexadecimal digits give. -/
  code? (count : Nat) (cs : List Char) : Option (Char × List Char) :=
    if count ≤ cs.length then
      (Text.hexNumber? 0 (cs.take count)).bind fun n =>
        if n.isValidChar then some (Char.ofNat n, cs.drop count) else none
    else none

/-! ## Sets of characters -/

/-- One character of a set. -/
def member? : List Char → Option (Char × List Char)
  | '\\' :: r => escaped? r
  | c :: r => some (c, r)
  | [] => none

/-- What follows a character of a set or a range of them, which has to ascend. -/
def range? (cs : List Char) : Option (List Char) :=
  (member? cs).bind fun p =>
    match p.2 with
    | '-' :: ']' :: _ => some p.2
    | '-' :: '-' :: _ => some p.2
    | '-' :: r => (member? r).bind fun q => if p.1 ≤ q.1 then some q.2 else none
    | _ => some p.2

/-- The names of sets that may stand between colons inside another one. -/
def classNames : List (List Char) :=
  ["alnum", "alpha", "ascii", "blank", "cntrl", "digit", "graph", "lower", "print", "punct",
   "space", "upper", "word", "xdigit"].map String.toList

/-- What follows the name of a set, after the bracket and the colon in front of it. -/
def className? (cs : List Char) : Option (List Char) :=
  let cs := match cs with
    | '^' :: r => r
    | r => r
  let name := cs.takeWhile (· ≠ ':')
  match cs.drop name.length with
  | ':' :: ']' :: r => if classNames.contains name then some r else none
  | _ => none

/-- What follows the opening of a set: signs at the front that stand for themselves there. -/
def setStart (cs : List Char) : List Char :=
  let cs := match cs with
    | '^' :: r => r
    | r => r
  match cs.dropWhile (· = '-') with
  | ']' :: r => if cs.head? = some '-' then ']' :: r else r
  | r => r

/-- What follows a set that is open, and the sets around it that are. Every step reads a
character. -/
def set? : Nat → Nat → List Char → Option (List Char)
  | 0, _, _ => none
  | n + 1, depth, cs =>
    match cs with
    | [] => none
    | ']' :: r => if depth = 0 then some r else set? n (depth - 1) r
    | '[' :: ':' :: r =>
      match className? r with
      | some r => set? n depth r
      | none => set? n (depth + 1) (setStart (':' :: r))
    | '[' :: r => set? n (depth + 1) (setStart r)
    | '&' :: '&' :: r => set? n depth r
    | '-' :: '-' :: r => set? n depth r
    | '~' :: '~' :: r => set? n depth r
    | cs => (range? cs).bind (set? n depth)

/-! ## Groups -/

/-- How a group opens. It may switch the matching in either case on or off. -/
inductive Opening where
  /-- A group is open. -/
  | group (folding : Option Bool)
  /-- There were only flags for what follows. -/
  | flags (folding : Option Bool)

/-- A letter that switches a way of matching, or the sign before those to switch off. -/
def isFlag (c : Char) : Bool := ['i', 'm', 's', 'U', 'u', 'R', 'x', '-'].contains c

/-- No flag is given twice, and the sign is not the last one. -/
def areFlags (flags : List Char) : Bool := decide flags.Nodup && flags.getLast? ≠ some '-'

/-- Whether flags switch the matching in either case on or off, if they do. -/
def folding? (flags : List Char) : Option Bool :=
  if flags.contains 'i' then some ((flags.takeWhile (· ≠ '-')).contains 'i') else none

/-- What follows the name of a group. -/
def groupName? (cs : List Char) : Option (Opening × List Char) :=
  let name := cs.takeWhile (· ≠ '>')
  let starts := name.head?.any fun c => c.isAlpha || c = '_'
  let isOfName := fun c : Char => c.isAlphanum || ['_', '.', '[', ']'].contains c
  if starts && name.all isOfName then
    match cs.drop name.length with
    | _ :: r => some (.group none, r)
    | [] => none
  else none

/-- What follows the opening of a group, after its parenthesis. -/
def opening? : List Char → Option (Opening × List Char)
  | '?' :: 'P' :: '<' :: r => groupName? r
  | '?' :: '<' :: r => groupName? r
  | '?' :: r =>
    let flags := r.takeWhile isFlag
    if areFlags flags then
      match r.drop flags.length with
      | ':' :: r => some (.group (folding? flags), r)
      | ')' :: r => if flags.isEmpty then none else some (.flags (folding? flags), r)
      | _ => none
    else none
  | r => some (.group none, r)

/-! ## Patterns -/

/-- A sign that matches anything or a place: it does not depend on the case. -/
def isCaseless (c : Char) : Bool := c = '.' || c = '^' || c = '$'

/-- The rest of a pattern is well formed. It is matched in either case if `folding`; `outer`
says the same for what comes after each of the groups that are open. Something stands
before it that can be repeated or not. Every step reads a character. -/
def continues : Nat → List Bool → Bool → Bool → List Char → Bool
  | 0, _, _, _, _ => false
  | n + 1, outer, folding, repeatable, cs =>
    match cs with
    | [] => outer.isEmpty
    | '(' :: r =>
      match opening? r with
      | some (.group f, r) => continues n (folding :: outer) (f.getD folding) false r
      | some (.flags f, r) => continues n outer (f.getD folding) false r
      | none => false
    | ')' :: r =>
      match outer with
      | f :: outer => continues n outer f true r
      | [] => false
    | '|' :: r => continues n outer folding false r
    | '[' :: r =>
      match set? (r.length + 1) 0 (setStart r) with
      | some r => !folding && continues n outer folding true r
      | none => false
    | '\\' :: 'A' :: r => continues n outer folding true r
    | '\\' :: 'z' :: r => continues n outer folding true r
    | '\\' :: r =>
      match escaped? r with
      | some p => !folding && continues n outer folding true p.2
      | none => false
    | '\x7b' :: _ => false
    | c :: r =>
      if c = '*' ∨ c = '+' ∨ c = '?' then repeatable && continues n outer folding true r
      else (isCaseless c || !folding) && continues n outer folding true r

/-- A text is a well-formed pattern. -/
def isWellFormed (cs : List Char) : Bool := continues (cs.length + 1) [] false false cs

end SyncLedger.Pattern
