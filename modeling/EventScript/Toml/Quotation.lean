import EventScript.Text.Hex

/-!
# Quoted text of TOML

The four kinds of strings: in double quotes, with escapes, or in single quotes, without; and of each
a kind in triple quotes that may run over several lines. Every reader here starts behind the opening
quotes and gives the content together with what follows the closing ones.
-/

namespace EventScript.Toml

/-- A character that may stand in a string or a comment as it is. -/
def isTextChar (c : Char) : Bool := c == '\t' || (0x20 ≤ c.toNat && c.toNat ≠ 0x7f)

/-- A blank between the parts of a line. -/
def isBlankChar (c : Char) : Bool := c == ' ' || c == '\t'

/-- The character of a one-letter escape. -/
def escapeLetter? (c : Char) : Option Char :=
  match c with
  | 'b' => some '\x08'
  | 't' => some '\t'
  | 'n' => some '\n'
  | 'f' => some '\x0c'
  | 'r' => some '\r'
  | '"' => some '"'
  | '\\' => some '\\'
  | _ => none

/-- A string with its first character, read as far as the closing quotes. -/
def prepend (c : Char) (r : List Char × List Char) : List Char × List Char := (c :: r.1, r.2)

/-- The content of a string in double quotes. -/
def basic? : List Char → Option (List Char × List Char)
  | '"' :: rest => some ([], rest)
  | '\\' :: 'u' :: a :: b :: c :: d :: rest => do
    let char ← Text.codePoint? [a, b, c, d]
    let read ← basic? rest
    return prepend char read
  | '\\' :: 'U' :: a :: b :: c :: d :: e :: f :: g :: h :: rest => do
    let char ← Text.codePoint? [a, b, c, d, e, f, g, h]
    let read ← basic? rest
    return prepend char read
  | '\\' :: letter :: rest => do
    let char ← escapeLetter? letter
    let read ← basic? rest
    return prepend char read
  | c :: rest => if isTextChar c ∧ c ≠ '\\' then (basic? rest).map (prepend c) else none
  | [] => none

/-- The content of a string in single quotes. -/
def literal? : List Char → Option (List Char × List Char)
  | '\'' :: rest => some ([], rest)
  | c :: rest => if isTextChar c then (literal? rest).map (prepend c) else none
  | [] => none

/-- Where the reader of a string in triple double quotes stands. -/
inductive Folding where
  /-- In the content. -/
  | content
  /-- Behind a backslash at the end of a line: only blanks may come before the line ends. -/
  | lineEnd
  /-- Behind such a line end: all blanks and line ends are left out. -/
  | margin
  deriving DecidableEq

/-- The content of a string in triple double quotes. Up to two quotes may stand right before the
closing ones. -/
def basicLines? : Folding → List Char → Option (List Char × List Char)
  | .lineEnd, '\n' :: rest => basicLines? .margin rest
  | .lineEnd, '\r' :: '\n' :: rest => basicLines? .margin rest
  | .lineEnd, c :: rest => if isBlankChar c then basicLines? .lineEnd rest else none
  | .margin, ' ' :: rest => basicLines? .margin rest
  | .margin, '\t' :: rest => basicLines? .margin rest
  | .margin, '\n' :: rest => basicLines? .margin rest
  | .margin, '\r' :: '\n' :: rest => basicLines? .margin rest
  | _, '"' :: '"' :: '"' :: '"' :: '"' :: '"' :: _ => none
  | _, '"' :: '"' :: '"' :: '"' :: '"' :: rest => some (['"', '"'], rest)
  | _, '"' :: '"' :: '"' :: '"' :: rest => some (['"'], rest)
  | _, '"' :: '"' :: '"' :: rest => some ([], rest)
  | _, '\n' :: rest => (basicLines? .content rest).map (prepend '\n')
  | _, '\r' :: '\n' :: rest => (basicLines? .content rest).map (prepend '\n')
  | _, '\\' :: 'u' :: a :: b :: c :: d :: rest => do
    let char ← Text.codePoint? [a, b, c, d]
    let read ← basicLines? .content rest
    return prepend char read
  | _, '\\' :: 'U' :: a :: b :: c :: d :: e :: f :: g :: h :: rest => do
    let char ← Text.codePoint? [a, b, c, d, e, f, g, h]
    let read ← basicLines? .content rest
    return prepend char read
  | _, '\\' :: '\n' :: rest => basicLines? .margin rest
  | _, '\\' :: '\r' :: '\n' :: rest => basicLines? .margin rest
  | _, '\\' :: letter :: rest =>
    if isBlankChar letter then basicLines? .lineEnd rest
    else do
      let char ← escapeLetter? letter
      let read ← basicLines? .content rest
      return prepend char read
  | _, c :: rest =>
    if isTextChar c ∧ c ≠ '\\' then (basicLines? .content rest).map (prepend c) else none
  | _, [] => none

/-- The content of a string in triple single quotes. -/
def literalLines? : List Char → Option (List Char × List Char)
  | '\'' :: '\'' :: '\'' :: '\'' :: '\'' :: '\'' :: _ => none
  | '\'' :: '\'' :: '\'' :: '\'' :: '\'' :: rest => some (['\'', '\''], rest)
  | '\'' :: '\'' :: '\'' :: '\'' :: rest => some (['\''], rest)
  | '\'' :: '\'' :: '\'' :: rest => some ([], rest)
  | '\n' :: rest => (literalLines? rest).map (prepend '\n')
  | '\r' :: '\n' :: rest => (literalLines? rest).map (prepend '\n')
  | c :: rest => if isTextChar c then (literalLines? rest).map (prepend c) else none
  | [] => none

/-- A line end right behind triple quotes is left out. -/
def dropFirstLineEnd : List Char → List Char
  | '\n' :: rest => rest
  | '\r' :: '\n' :: rest => rest
  | rest => rest

/-- A string of any kind, from its opening quotes on. -/
def quotation? : List Char → Option (String × List Char)
  | '"' :: '"' :: '"' :: rest => do
    let (content, rest) ← basicLines? .content (dropFirstLineEnd rest)
    return (String.ofList content, rest)
  | '\'' :: '\'' :: '\'' :: rest => do
    let (content, rest) ← literalLines? (dropFirstLineEnd rest)
    return (String.ofList content, rest)
  | '"' :: rest => do
    let (content, rest) ← basic? rest
    return (String.ofList content, rest)
  | '\'' :: rest => do
    let (content, rest) ← literal? rest
    return (String.ofList content, rest)
  | _ => none

/-- A string on one line, as keys use it, from its opening quote on. -/
def quotedKey? : List Char → Option (String × List Char)
  | '"' :: rest => do
    let (content, rest) ← basic? rest
    return (String.ofList content, rest)
  | '\'' :: rest => do
    let (content, rest) ← literal? rest
    return (String.ofList content, rest)
  | _ => none

end EventScript.Toml
