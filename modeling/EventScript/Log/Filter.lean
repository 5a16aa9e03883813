import EventScript.Log
import EventScript.Text.Blank
import EventScript.Text.Decimal
import EventScript.Text.Pattern
import EventScript.Text.Utf8

/-!
# Log filters

A filter is written as directives separated by commas. A directive is a level, or a scope with or
without a level. A scope is the beginning of a path; a part in square brackets may narrow it, to the
records with a field of the name in braces, or to spans of work. The engine reports no spans, and
the value of a field is only ever looked at in a span, so a directive about spans or values lets
nothing through.

The most specific directive that covers a record decides whether it is shown. A record that no
directive covers is not shown.
-/

namespace EventScript.Log

/-- How much is shown of some of the records. -/
structure Directive where
  /-- The beginning of the paths meant; the empty text means all. -/
  scope : String
  /-- The field that the records must have. -/
  field : Option String
  /-- The number of levels shown, the most important first. -/
  verbosity : Nat
  deriving DecidableEq

/-- Directives in the order in which they were given. -/
abbrev Filter : Type := List Directive

/-- Why a text is no filter. -/
inductive FilterError where
  /-- A directive has no meaning. -/
  | unreadable
  /-- A directive would have to be cut inside a character. -/
  | splitCharacter
  deriving DecidableEq

/-! ## Parts of a directive -/

/-- The verbosity of everything. -/
def everything : Nat := 5

/-- The verbosity of a level given by name, in any case, or by number. -/
def verbosity? (word : List Char) : Option Nat :=
  match Text.natural? word with
  | some n => if n ≤ everything then some n else none
  | none =>
    match String.ofList (word.map Char.toLower) with
    | "off" => some 0
    | "error" => some 1
    | "warn" => some 2
    | "info" => some 3
    | "debug" => some 4
    | "trace" => some 5
    | _ => none

/-- A character with which a path may begin. -/
def startsPath (c : Char) : Bool := c == '-' || c == ':' || c == '_' || Text.isAlphanumeric c

/-- The part of a word between two positions counted in bytes. -/
def part (word : List Char) (start stop : Nat) : Except FilterError (List Char) :=
  match Text.Utf8.cut start stop word with
  | some cs => .ok cs
  | none => .error .splitCharacter

/-- The verbosity at the end of a directive, where `rest` begins at the given position. Without a
level everything is shown. -/
def closing (word : List Char) (position : Nat) (rest : List Char) : Except FilterError Nat :=
  match rest with
  | [] => .ok everything
  | '=' :: _ => do
    let level ← part word (position + 1) (Text.Utf8.size word)
    if level.isEmpty then return everything
    else match verbosity? level with
      | some verbosity => return verbosity
      | none => .error .unreadable
  | _ => .error .unreadable

/-- The field meant by a text in braces; `none` if a value is asked for too. A value is a numeral or
a pattern. -/
def fieldName (text : List Char) : Except FilterError (Option String) :=
  let name := text.takeWhile (· ≠ '=')
  match text.drop name.length with
  | [] => if name.isEmpty then .error .unreadable else .ok (String.ofList name)
  | _ :: rest =>
    let value := rest.takeWhile (· ≠ '=')
    if Text.isDecimal value || Text.isPattern value then .ok none else .error .unreadable

/-- What a part in square brackets narrows a directive to, and where it ends. -/
structure Bracket where
  /-- The field; `none` if spans or values are meant. -/
  field : Option String
  /-- The position after the part. -/
  position : Nat
  /-- The text after the part. -/
  rest : List Char

/-- Reads a part in square brackets from the text after the opening bracket, which begins at the
given position. -/
def bracket (word : List Char) (position : Nat) (cs : List Char) : Except FilterError Bracket := do
  let span := cs.takeWhile fun c ↦ c ≠ ']' && c ≠ '\x7b'
  let spanEnd := position + Text.Utf8.size span
  match cs.drop span.length with
  | ']' :: rest =>
    let _ ← part word position spanEnd
    return ⟨none, spanEnd + 1, rest⟩
  | '\x7b' :: rest =>
    let _ ← part word position spanEnd
    let inner := rest.takeWhile (· ≠ '\x7d')
    let innerEnd := spanEnd + 1 + Text.Utf8.size inner
    match rest.drop inner.length with
    | [] => .error .unreadable
    | _ :: rest =>
      let field ← fieldName (← part word (spanEnd + 1) innerEnd)
      match rest with
      | ']' :: rest => return ⟨if span.isEmpty then field else none, innerEnd + 2, rest⟩
      | _ => .error .unreadable
  | _ => .error .unreadable

/-! ## Directives and filters -/

/-- Reads a directive; `none` if it is about spans or values. Its parts are found in the word
without the blanks around it, and cut at the same positions from the word as it was given: blanks in
front shift them. A word that is all one part is taken with its blanks. -/
def directive (word : List Char) : Except FilterError (Option Directive) := do
  let trimmed := Text.trim word
  let scope := trimmed.takeWhile fun c ↦ c ≠ '=' && c ≠ '['
  let scopeEnd := Text.Utf8.size scope
  if !(trimmed.head?.any fun c ↦ c == '[' || startsPath c) then .error .unreadable
  else match trimmed.drop scope.length with
    | [] =>
      match verbosity? word with
      | some verbosity => return some ⟨"", none, verbosity⟩
      | none => return some ⟨String.ofList word, none, everything⟩
    | '[' :: rest =>
      let scope ← part word 0 scopeEnd
      let bracket ← bracket word (scopeEnd + 1) rest
      let verbosity ← closing word bracket.position bracket.rest
      return bracket.field.map fun field ↦ ⟨String.ofList scope, some field, verbosity⟩
    | rest =>
      let scope ← part word 0 scopeEnd
      let verbosity ← closing word scopeEnd rest
      return some ⟨String.ofList scope, none, verbosity⟩

namespace Filter

/-- The filter used when none is given, or an unreadable one. -/
def standard : Filter := [⟨"", none, 2⟩, ⟨"overworld", none, 3⟩]

/-- The filter of a text. Nothing between two commas is no directive. -/
def ofText (text : String) : Except FilterError Filter := do
  let words := (text.splitOn ",").filter (· ≠ "")
  let directives ← words.mapM fun word ↦ directive word.toList
  return directives.filterMap id

end Filter

/-! ## Deciding -/

/-- Whether a directive is about a record. -/
def Directive.covers (d : Directive) (record : Record) : Bool :=
  d.scope.toList.isPrefixOf record.source.path.toList &&
    d.field.all fun field ↦ record.fieldNames.contains field

/-- Whether the second of two directives that cover a record comes before the first: a longer scope
wins, then a field, then the greater name of a field, then the later one. -/
def Directive.yieldsTo (d e : Directive) : Bool :=
  if d.scope.utf8ByteSize ≠ e.scope.utf8ByteSize then d.scope.utf8ByteSize < e.scope.utf8ByteSize
  else match d.field, e.field with
    | none, _ => true
    | some _, none => false
    | some a, some b => !decide (b < a)

namespace Filter

/-- The directive that decides about a record. -/
def deciding? (filter : Filter) (record : Record) : Option Directive :=
  (filter.filter (·.covers record)).foldl
    (fun best candidate ↦
      match best with
      | some directive => if directive.yieldsTo candidate then some candidate else best
      | none => some candidate)
    none

/-- Whether a record is shown. -/
def allows (filter : Filter) (record : Record) : Bool :=
  match filter.deciding? record with
  | some directive => record.level.verbosity ≤ directive.verbosity
  | none => false

end Filter

end EventScript.Log
