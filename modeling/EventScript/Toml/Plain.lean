import EventScript.Toml.Scalar
import EventScript.Toml.Value

/-!
# Plain documents of TOML

The documents that settings are written as: tables under headers of one name each, with an empty
line between them, and in a table one line for each key. A value is a truth value, a text or a
number.
-/

namespace EventScript.Toml

/-- A value that is written as one word or between quotes. -/
inductive Atom where
  | boolean (b : Bool)
  | text (s : String)
  | number (n : Nat)
  deriving DecidableEq

namespace Atom

/-- What a document says of a value. -/
def value : Atom → Value
  | boolean b => .boolean b
  | text s => .text s
  | number n => .integer n

/-- The spelling of a value. A text stands between its quotes as it is. -/
def spelling : Atom → String
  | boolean b => toString b
  | text s => "\"" ++ s ++ "\""
  | number n => toString n

/-- Whether a number is among the integers of a document. -/
def fits : Atom → Bool
  | number n => n ≤ maxInteger
  | _ => true

end Atom

/-- The text of a document of these lines. -/
def document (lines : List String) : String := String.join (lines.map (· ++ "\n"))

/-- Tables in their order, each a name with keys and values. -/
abbrev Tables : Type := List (String × List (String × Atom))

namespace Tables

/-- The line of a key and its value. -/
def pairLine (pair : String × Atom) : String := pair.1 ++ " = " ++ pair.2.spelling

/-- The header of a table, and a line for each key. -/
def tableLines (table : String × List (String × Atom)) : List String :=
  ("[" ++ table.1 ++ "]") :: table.2.map pairLine

/-- The lines of all tables. -/
def lines : Tables → List String
  | [] => []
  | [table] => tableLines table
  | table :: others => tableLines table ++ "" :: lines others

/-- The document of the tables. A number beyond the integers of TOML cannot be written. -/
def write? (tables : Tables) : Option String :=
  if tables.all fun table ↦ table.2.all fun pair ↦ pair.2.fits then some (document tables.lines)
  else none

end Tables

end EventScript.Toml
