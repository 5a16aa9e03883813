import EventScript.Text.Alphanumeric
import EventScript.Text.Blank
import EventScript.Text.Hex

/-!
# Patterns

Whether a text is an acceptable regular expression. Nothing is ever matched against one here, so
only the form matters.

A pattern is made of characters, escapes, sets in square brackets and groups in parentheses, with
`?`, `*` or `+` behind what may be repeated and `|` between alternatives. Counts in braces are not
part of it: the places where patterns are written end at the first closing brace, so that no count
could be complete. Switches in parentheses say how the text after them, up to the end of the group,
is to be read.

* A pattern is about characters unless `u` is turned off, and about bytes otherwise. As long as it
  is about characters, nothing may depend on a table of them: no class such as `\d`, no word
  boundary, and no character whose case is to be ignored. When it is about bytes, its classes hold
  ASCII only.
* Under `x`, blanks and comments from `#` to the end of the line do not count.
* A pattern may be nested only so deep.
-/

namespace EventScript.Text

namespace Pattern

/-! ## Switches -/

/-- How a part of a pattern is read. -/
structure Switches where
  /-- The case of letters is ignored. -/
  ignoreCase : Bool := false
  /-- The pattern is about characters, not about bytes. -/
  unicode : Bool := true
  /-- Blanks and comments do not count. -/
  spaced : Bool := false
  deriving DecidableEq

namespace Switches

/-- The switches after a letter that turns one on or off. The other letters say how to match. -/
def set (s : Switches) (value : Bool) : Char → Switches
  | 'i' => { s with ignoreCase := value }
  | 'u' => { s with unicode := value }
  | 'x' => { s with spaced := value }
  | _ => s

/-- The switches after letters, of which those behind a dash are turned off. -/
def update (s : Switches) (letters : List Char) : Switches :=
  let off := (letters.dropWhile (· ≠ '-')).foldl (·.set false) s
  (letters.takeWhile (· ≠ '-')).foldl (·.set true) off

/-- Switches are given by different letters, with at most one dash, which may not be the last. -/
def areLetters (letters : List Char) : Bool :=
  letters.all "imsUuRx-".toList.contains && letters.Nodup && letters.getLast? ≠ some '-'

/-- Whether a character may stand for itself. -/
def allowsChar (s : Switches) : Bool := !(s.ignoreCase && s.unicode)

/-- Whether a character may be a member of a set. -/
def allowsMember (s : Switches) (c : Char) : Bool :=
  if s.unicode then !s.ignoreCase else c.toNat < 0x80

end Switches

/-- The text after blanks and comments. -/
def skipSpace : (inComment : Bool) → List Char → List Char
  | _, [] => []
  | true, c :: cs => skipSpace (c ≠ '\n') cs
  | false, c :: cs =>
    if isBlank c then skipSpace false cs
    else if c = '#' then skipSpace true cs
    else c :: cs

/-- The text after what does not count. -/
def Switches.skip (s : Switches) (cs : List Char) : List Char :=
  if s.spaced then skipSpace false cs else cs

/-- The next character that counts, with the mark of one comment passed over and not the comment. If
there is none, it is the next character. -/
def Switches.peek (s : Switches) (cs : List Char) : Option Char :=
  let ahead := cs.dropWhile isBlank
  let ahead := match ahead with
    | '#' :: comment => comment.dropWhile isBlank
    | ahead => ahead
  if s.spaced && !ahead.isEmpty then ahead.head? else cs.head?

/-! ## Escapes -/

/-- What an escape stands for. -/
inductive Escape where
  /-- One character. -/
  | char (c : Char)
  /-- A class of characters. -/
  | set
  /-- A position in the text. -/
  | anchor
  deriving DecidableEq

/-- The number written by exactly `width` hexadecimal digits, after a part of it. -/
def hexNumber? (s : Switches) : (width part : Nat) → List Char → Option (Nat × List Char)
  | 0, part, cs => some (part, cs)
  | _ + 1, _, [] => none
  | width + 1, part, c :: cs => do
    let digit ← hexValue? c
    hexNumber? s width (part * 16 + digit) (s.skip cs)

/-- A character given by its number. A byte given by two digits is a character only in ASCII. -/
def hexEscape? (s : Switches) (width : Nat) (cs : List Char) : Option (Escape × List Char) := do
  let (n, rest) ← hexNumber? s width 0 (s.skip cs)
  if !n.isValidChar then none
  else if width = 2 && !s.unicode && 0x80 ≤ n then none
  else return (.char (Char.ofNat n), rest)

/-- The escape behind a backslash. -/
def escape? (s : Switches) : List Char → Option (Escape × List Char)
  | [] => none
  | letter :: rest =>
    match letter with
    | 'x' => hexEscape? s 2 rest
    | 'u' => hexEscape? s 4 rest
    | 'U' => hexEscape? s 8 rest
    | 'd' | 's' | 'w' => if s.unicode then none else some (.set, rest)
    | 'b' | 'B' | '<' | '>' => if s.unicode then none else some (.anchor, rest)
    | 'A' | 'z' => some (.anchor, rest)
    | 'a' => some (.char '\x07', rest)
    | 'f' => some (.char '\x0c', rest)
    | 'n' => some (.char '\n', rest)
    | 'r' => some (.char '\r', rest)
    | 't' => some (.char '\t', rest)
    | 'v' => some (.char '\x0b', rest)
    | c => if c.toNat < 0x80 && !c.isAlphanum then some (.char c, rest) else none

/-! ## Sets -/

/-- The classes that have a name between colons. -/
def classNames : List String :=
  ["alnum", "alpha", "ascii", "blank", "cntrl", "digit", "graph", "lower", "print", "punct",
    "space", "upper", "word", "xdigit"]

/-- Whether a named class, whose opening bracket has been read, is negated, and the rest after
it. -/
def namedClass? : List Char → Option (Bool × List Char)
  | ':' :: cs =>
    let (negated, cs) := match cs with
      | '^' :: rest => (true, rest)
      | cs => (false, cs)
    match cs.dropWhile (· ≠ ':') with
    | ':' :: ']' :: rest =>
      if classNames.contains (String.ofList (cs.takeWhile (· ≠ ':'))) then some (negated, rest)
      else none
    | _ => none
  | _ => none

/-- One member of a set. -/
def member? (s : Switches) : List Char → Option (Escape × List Char)
  | [] => none
  | '\\' :: rest => escape? s rest
  | c :: rest => some (.char c, rest)

/-- Whether a set may hold what an escape stands for. -/
def Escape.isMember (s : Switches) : Escape → Bool
  | char c => s.allowsMember c
  | set => true
  | anchor => false

/-- The rest after one member of a set or a range of them. The ends of a range are characters in
order. -/
def range? (s : Switches) (cs : List Char) : Option (List Char) := do
  let (low, rest) ← member? s cs
  let single := if low.isMember s then some (s.skip rest) else none
  match s.skip rest with
  | '-' :: rest =>
    if s.peek rest = some ']' ∨ s.peek rest = some '-' then single
    else
      let (high, rest) ← member? s (s.skip rest)
      match low, high with
      | .char a, .char b =>
        if a ≤ b && s.allowsMember a && s.allowsMember b then some rest else none
      | _, _ => none
  | _ => single

/-- The depth of some parts side by side, given their number and the depth of the deepest. A single
part needs no level of its own. -/
def sideBySide (count depth : Nat) : Nat := if count ≤ 1 then depth else depth + 1

/-- A set that is being read. -/
structure OpenSet where
  /-- The members since the last operator. -/
  count : Nat := 0
  /-- The depth of the deepest of them. -/
  depth : Nat := 0
  /-- The depth of what stands before the last operator, if there was one. -/
  operand : Option Nat := none
  /-- No more than dashes have been read. -/
  fresh : Bool := true

namespace OpenSet

/-- The set with a member of the given depth. -/
def add (o : OpenSet) (depth : Nat) : OpenSet :=
  { o with count := o.count + 1, depth := max o.depth depth, fresh := false }

/-- The depth of everything read so far. -/
def whole (o : OpenSet) : Nat :=
  let members := sideBySide o.count o.depth
  match o.operand with
  | none => members
  | some operand => max operand members + 1

/-- The set after an operator. -/
def operator (o : OpenSet) : OpenSet := { operand := some o.whole, fresh := false }

end OpenSet

/-- The rest after the opening bracket of a set. A set of bytes may not be negated, because it would
hold bytes beyond ASCII. -/
def setStart? (s : Switches) (cs : List Char) : Option (List Char) :=
  match s.skip cs with
  | '^' :: rest => if s.unicode then some rest else none
  | cs => some cs

/-- The depth of a set and the rest after it, from within it and the sets around it. -/
def setRest? (s : Switches) :
    (fuel : Nat) → OpenSet → (outer : List OpenSet) → List Char → Option (Nat × List Char)
  | 0, _, _, _ => none
  | fuel + 1, o, outer, cs =>
    let literal (fresh : Bool) (c : Char) (rest : List Char) : Option (Nat × List Char) :=
      if s.allowsMember c then setRest? s fuel { o.add 0 with fresh } outer rest else none
    match s.skip cs, o.fresh with
    | [], _ => none
    | '-' :: rest, true => literal true '-' rest
    | ']' :: rest, fresh =>
      if fresh && o.count = 0 then literal false ']' rest
      else match outer with
        | [] => some (o.whole + 1, rest)
        | parent :: outer => setRest? s fuel (parent.add (o.whole + 1)) outer rest
    | '[' :: rest, _ =>
      match namedClass? rest with
      | some (negated, rest) =>
        if (if s.unicode then !s.ignoreCase else !negated) then
          setRest? s fuel (o.add 0) outer rest
        else none
      | none => setStart? s rest >>= setRest? s fuel {} (o :: outer)
    | '&' :: '&' :: rest, _ => setRest? s fuel o.operator outer rest
    | '-' :: '-' :: rest, _ => setRest? s fuel o.operator outer rest
    | '~' :: '~' :: rest, _ => setRest? s fuel o.operator outer rest
    | cs, _ => range? s cs >>= setRest? s fuel (o.add 0) outer

/-- The depth of a set and the rest after it, from behind the opening bracket. Every member takes a
character, so the length of the text bounds their number. -/
def set? (s : Switches) (cs : List Char) : Option (Nat × List Char) :=
  setStart? s cs >>= setRest? s (cs.length + 1) {} []

/-! ## Groups -/

/-- What an opening parenthesis begins. -/
inductive Opening where
  /-- A group, perhaps with a name, and the switches in it. -/
  | group (name : Option String) (switches : Switches)
  /-- Switches for what follows. -/
  | switches (switches : Switches)
  deriving DecidableEq

/-- The name of a group. -/
def isGroupName (name : List Char) : Bool :=
  match name with
  | [] => false
  | first :: rest =>
    (first == '_' || isAlphabetic first) &&
      rest.all fun c ↦ c == '_' || c == '.' || c == '[' || c == ']' || isAlphanumeric c

/-- A group with a name, behind the angle bracket. -/
def named? (s : Switches) (cs : List Char) : Option (Opening × List Char) :=
  let name := cs.takeWhile (· ≠ '>')
  match cs.drop name.length with
  | '>' :: rest => if isGroupName name then some (.group (String.ofList name) s, rest) else none
  | _ => none

/-- What an opening parenthesis begins, and the rest after it. -/
def opening? (s : Switches) (cs : List Char) : Option (Opening × List Char) :=
  match s.skip cs with
  | '?' :: 'P' :: '<' :: cs => named? s cs
  | '?' :: '<' :: cs => named? s cs
  | '?' :: cs =>
    let letters := cs.takeWhile fun c ↦ c ≠ ':' && c ≠ ')'
    if !Switches.areLetters letters then none
    else match cs.drop letters.length with
      | ':' :: rest => some (.group none (s.update letters), rest)
      | ')' :: rest => if letters.isEmpty then none else some (.switches (s.update letters), rest)
      | _ => none
  | cs => some (.group none s, cs)

/-! ## Whole patterns -/

/-- A group that is being read, or the whole pattern. -/
structure OpenGroup where
  /-- How the text is read. -/
  switches : Switches := {}
  /-- The parts of the current alternative. -/
  count : Nat := 0
  /-- The depth of the deepest of them. -/
  depth : Nat := 0
  /-- The depth of the last of them, if it may be repeated. -/
  last : Option Nat := none
  /-- The depth of the deepest alternative before the current one, if there is one. -/
  before : Option Nat := none

namespace OpenGroup

/-- The group with a part of the given depth, which may be repeated. -/
def add (g : OpenGroup) (depth : Nat) : OpenGroup :=
  { g with count := g.count + 1, depth := max g.depth depth, last := some depth }

/-- The group after switches, which are a part that cannot be repeated. -/
def switch (g : OpenGroup) (switches : Switches) : OpenGroup :=
  { g with switches, count := g.count + 1, last := none }

/-- The group with its last part repeated. -/
def repeat? (g : OpenGroup) : Option OpenGroup :=
  g.last.map fun depth ↦ { g with depth := max g.depth (depth + 1), last := some (depth + 1) }

/-- The group at the beginning of the next alternative. -/
def alternative (g : OpenGroup) : OpenGroup :=
  { switches := g.switches
    before := some (max (g.before.getD 0) (sideBySide g.count g.depth)) }

/-- The depth of everything read so far. -/
def whole (g : OpenGroup) : Nat :=
  let current := sideBySide g.count g.depth
  match g.before with
  | none => current
  | some before => max before current + 1

end OpenGroup

/-- How far a pattern has been read. -/
structure Scan where
  /-- The innermost group. -/
  group : OpenGroup := {}
  /-- The groups around it, the innermost first. -/
  outer : List OpenGroup := []
  /-- The names of the groups so far. -/
  names : List String := []

/-- The scan with another part of the given depth. -/
def Scan.add (scan : Scan) (depth : Nat) : Scan := { scan with group := scan.group.add depth }

/-- The depth beyond which a pattern is refused. -/
def depthLimit : Nat := 250

/-- Whether the rest of a pattern completes it. -/
def completes : (fuel : Nat) → Scan → List Char → Bool
  | 0, _, _ => false
  | fuel + 1, scan, cs =>
    let s := scan.group.switches
    match s.skip cs with
    | [] => scan.outer.isEmpty && scan.group.whole ≤ depthLimit
    | c :: rest =>
      match c with
      | '(' =>
        match opening? s rest with
        | some (.group name switches, rest) =>
          name.all (!scan.names.contains ·) &&
            completes fuel
              ⟨{ switches }, scan.group :: scan.outer, name.toList ++ scan.names⟩ rest
        | some (.switches switches, rest) =>
          completes fuel { scan with group := scan.group.switch switches } rest
        | none => false
      | ')' =>
        match scan.outer with
        | [] => false
        | parent :: outer =>
          completes fuel ⟨parent.add (scan.group.whole + 1), outer, scan.names⟩ rest
      | '|' => completes fuel { scan with group := scan.group.alternative } rest
      | '?' | '*' | '+' =>
        let rest := match rest with
          | '?' :: rest => rest
          | rest => rest
        match scan.group.repeat? with
        | some group => completes fuel { scan with group } rest
        | none => false
      | '\x7b' => false
      | '[' =>
        match set? s rest with
        | some (depth, rest) => completes fuel (scan.add depth) rest
        | none => false
      | '\\' =>
        match escape? s rest with
        | some (.char _, rest) => s.allowsChar && completes fuel (scan.add 0) rest
        | some (_, rest) => completes fuel (scan.add 0) rest
        | none => false
      | '^' | '$' => completes fuel (scan.add 0) rest
      | '.' => s.unicode && completes fuel (scan.add 0) rest
      | _ => s.allowsChar && completes fuel (scan.add 0) rest

end Pattern

/-- An acceptable pattern. Every part of it takes a character, so the length of the text bounds
their number. -/
def isPattern (cs : List Char) : Bool := Pattern.completes (cs.length + 1) {} cs

end EventScript.Text
