import EventScript.Toml.Quotation
import EventScript.Toml.Scalar
import EventScript.Toml.Value

/-!
# TOML documents

Reads a document of TOML 1.0 into its top-level entries. A reader takes what it is for off the front
of the text and gives it together with the rest, or refuses.

Nesting is bounded by the format's own limit, `maxNesting`, and the reader of values recurses on it.
Lists of items recurse on the length of the text in front of them, of which every item takes some.
-/

namespace EventScript.Toml

/-- The most brackets and braces inside one another, and the most parts of a dotted key. -/
def maxNesting : Nat := 79

/-! ## Lines -/

/-- Drops the blanks in front. -/
def skipBlanks (cs : List Char) : List Char := cs.dropWhile isBlankChar

/-- Drops a comment, if there is one. -/
def skipComment : List Char → List Char
  | '#' :: rest => rest.dropWhile isTextChar
  | rest => rest

/-- Takes a line end off the front; the end of the document is one too. -/
def lineEnd? : List Char → Option (List Char)
  | [] => some []
  | '\n' :: rest => some rest
  | '\r' :: '\n' :: rest => some rest
  | _ => none

/-- Finishes a line on which only blanks and a comment are left. -/
def finishLine? (cs : List Char) : Option (List Char) := lineEnd? (skipComment (skipBlanks cs))

/-- Drops blanks, line ends and comments. -/
def skipTrivia : (inComment : Bool) → List Char → List Char
  | _, '\n' :: rest => skipTrivia false rest
  | _, '\r' :: '\n' :: rest => skipTrivia false rest
  | true, c :: rest => if isTextChar c then skipTrivia true rest else c :: rest
  | false, '#' :: rest => skipTrivia true rest
  | false, c :: rest => if isBlankChar c then skipTrivia false rest else c :: rest
  | _, [] => []

/-! ## Keys -/

/-- A character of a key without quotes. -/
def isKeyChar (c : Char) : Bool := c.isAlphanum || c == '-' || c == '_'

/-- One part of a key. -/
def keyPart? (cs : List Char) : Option (String × List Char) :=
  match cs with
  | '"' :: _ | '\'' :: _ => quotedKey? cs
  | _ =>
    match cs.takeWhile isKeyChar with
    | [] => none
    | part => some (String.ofList part, cs.dropWhile isKeyChar)

/-- A key of at most `limit` parts, with the blanks around it. -/
def key? : (limit : Nat) → List Char → Option (List String × List Char)
  | 0, _ => none
  | limit + 1, cs => do
    let (part, rest) ← keyPart? (skipBlanks cs)
    match skipBlanks rest with
    | '.' :: rest =>
      let (parts, rest) ← key? limit rest
      return (part :: parts, rest)
    | rest => return ([part], rest)

/-! ## Values -/

/-- A number, date or truth value. A date and a time may be joined by a single space. -/
def scalar? (cs : List Char) : Option (Value × List Char) :=
  let word := cs.takeWhile isWordChar
  let rest := cs.dropWhile isWordChar
  if word = ['t', 'r', 'u', 'e'] then some (.boolean true, rest)
  else if word = ['f', 'a', 'l', 's', 'e'] then some (.boolean false, rest)
  else if isDate word then
    match rest with
    | ' ' :: more =>
      if isOffsetTime (more.takeWhile isWordChar) then
        some (.dateTime, more.dropWhile isWordChar)
      else some (.dateTime, rest)
    | _ => some (.dateTime, rest)
  else if isDateTime word then some (.dateTime, rest)
  else if isReal word then some (.real, rest)
  else (integer? word).map fun n ↦ (.integer n, rest)

/-- The items of an array, from behind its bracket or a comma on. -/
def items? (item : List Char → Option (Value × List Char)) :
    (fuel : Nat) → List Char → Option (List Value × List Char)
  | 0, _ => none
  | fuel + 1, cs =>
    match skipTrivia false cs with
    | ']' :: rest => some ([], rest)
    | cs => do
      let (first, rest) ← item cs
      match skipTrivia false rest with
      | ',' :: rest =>
        let (others, rest) ← items? item fuel rest
        return (first :: others, rest)
      | ']' :: rest => return ([first], rest)
      | _ => none

/-- A key, the sign of equality and a value. -/
def pair (item : List Char → Option (Value × List Char)) (cs : List Char) :
    Option ((List String × Value) × List Char) := do
  let (path, rest) ← key? maxNesting cs
  match rest with
  | '=' :: rest =>
    let (value, rest) ← item (skipBlanks rest)
    return ((path, value), rest)
  | _ => none

/-- The pairs of a table in braces, from behind its brace or a comma on; there is at least one. -/
def pairs? (item : List Char → Option (Value × List Char)) :
    (fuel : Nat) → List Char → Option (List (List String × Value) × List Char)
  | 0, _ => none
  | fuel + 1, cs => do
    let (first, rest) ← pair item cs
    match skipBlanks rest with
    | ',' :: rest =>
      let (others, rest) ← pairs? item fuel rest
      return (first :: others, rest)
    | '}' :: rest => return ([first], rest)
    | _ => none

/-- Adds a value under a key of one or more parts. -/
def addPath? (entries : Entries) (path : List String) (value : Value) : Option Entries := do
  let key ← path.getLast?
  Entries.addDotted? key value path.dropLast entries

/-- The entries that pairs amount to. -/
def ofPairs? (pairs : List (List String × Value)) : Option Entries :=
  pairs.foldlM (fun entries (path, value) ↦ addPath? entries path value) []

/-- A value with at most `nesting` brackets and braces inside one another. -/
def value? : (nesting : Nat) → List Char → Option (Value × List Char)
  | 0, cs =>
    match cs with
    | '"' :: _ | '\'' :: _ => (quotation? cs).map fun (s, rest) ↦ (.text s, rest)
    | _ => scalar? cs
  | nesting + 1, cs =>
    match cs with
    | '"' :: _ | '\'' :: _ => (quotation? cs).map fun (s, rest) ↦ (.text s, rest)
    | '[' :: rest =>
      (items? (value? nesting) (rest.length + 1) rest).map fun (items, rest) ↦ (.array items, rest)
    | '{' :: rest =>
      match skipBlanks rest with
      | '}' :: rest => some (.table .braces [], rest)
      | rest => do
        let (pairs, rest) ← pairs? (value? nesting) (rest.length + 1) rest
        let entries ← ofPairs? pairs
        return (.table .braces entries, rest)
    | _ => scalar? cs

/-! ## Documents -/

/-- The document read so far. -/
structure Draft where
  /-- All entries. -/
  root : Entries := []
  /-- The path of the table that pairs go into. -/
  path : List String := []

namespace Draft

/-- Opens the table of a header. -/
def openWith? (d : Draft) (enter : String → Entries → Option Entries) (path : List String) :
    Option Draft := do
  let key ← path.getLast?
  let root ← Entries.updateAt? (enter key) path.dropLast d.root
  return ⟨root, path⟩

/-- Adds a pair to the table opened last. -/
def add? (d : Draft) (path : List String) (value : Value) : Option Draft := do
  let root ← Entries.updateAt? (fun entries ↦ addPath? entries path value) d.path d.root
  return { d with root := root }

end Draft

/-- Reads a header, from its first bracket on, and finishes its line. -/
def header? (d : Draft) (cs : List Char) : Option (Draft × List Char) :=
  match cs with
  | '[' :: '[' :: rest => do
    let (path, rest) ← key? maxNesting rest
    match rest with
    | ']' :: ']' :: rest =>
      let d ← d.openWith? Entries.openNext? path
      let rest ← finishLine? rest
      return (d, rest)
    | _ => none
  | '[' :: rest => do
    let (path, rest) ← key? maxNesting rest
    match rest with
    | ']' :: rest =>
      let d ← d.openWith? Entries.openTable? path
      let rest ← finishLine? rest
      return (d, rest)
    | _ => none
  | _ => none

/-- Reads one line, or several if a value runs over them. -/
def expression? (d : Draft) (cs : List Char) : Option (Draft × List Char) :=
  match skipBlanks cs with
  | '[' :: rest => header? d ('[' :: rest)
  | [] | '#' :: _ | '\n' :: _ | '\r' :: _ => (finishLine? cs).map fun rest ↦ (d, rest)
  | cs => do
    let ((path, value), rest) ← pair (value? maxNesting) cs
    let d ← d.add? path value
    let rest ← finishLine? rest
    return (d, rest)

/-- Reads lines to the end. -/
def expressions? : (fuel : Nat) → Draft → List Char → Option Draft
  | _, d, [] => some d
  | 0, _, _ => none
  | fuel + 1, d, cs => do
    let (d, rest) ← expression? d cs
    expressions? fuel d rest

/-- The top-level entries of a document. A byte-order mark in front is left out. -/
def parse? (text : String) : Option Entries :=
  let cs := match text.toList with
    | '\ufeff' :: rest => rest
    | cs => cs
  (expressions? cs.length {} cs).map Draft.root

end EventScript.Toml
