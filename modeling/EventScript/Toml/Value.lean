/-!
# TOML values

The values of a TOML document, as far as settings need them: of fractional numbers and dates only
the kind is kept.

A document is built up table by table, and what may be added to a table later depends on how it came
into being. Each table therefore carries its origin. A table opened by a header may not be opened
again; one that only a longer header implied may; one made by a dotted key can only be extended by
dotted keys; and a table written in braces is closed for good.
-/

namespace EventScript.Toml

/-- How a table came into being. -/
inductive Origin where
  /-- Written in braces. -/
  | braces
  /-- Opened by a header of its own. -/
  | header
  /-- Implied by the header of a table inside it. -/
  | implied
  /-- Made by a dotted key. -/
  | dotted
  deriving DecidableEq

/-- A TOML value. -/
inductive Value where
  | text (s : String)
  | integer (n : Int)
  | real
  | boolean (b : Bool)
  | dateTime
  /-- Values in brackets. -/
  | array (items : List Value)
  /-- Keys with values, in the order in which they were added. -/
  | table (origin : Origin) (entries : List (String × Value))
  /-- Tables under headers in double brackets. -/
  | tables (items : List Value)

/-- The keys of a table with their values. -/
abbrev Entries : Type := List (String × Value)

namespace Entries

/-- The value of a key. -/
def get? (entries : Entries) (key : String) : Option Value :=
  (entries.find? fun entry ↦ entry.1 == key).map Prod.snd

/-- The table with a key added; a key may be given only once. -/
def add? (entries : Entries) (key : String) (value : Value) : Option Entries :=
  if (entries.get? key).isSome then none else some (entries ++ [(key, value)])

/-- The table with the value of a present key replaced. -/
def replace (entries : Entries) (key : String) (value : Value) : Entries :=
  entries.map fun entry ↦ if entry.1 == key then (key, value) else entry

/-- Adds a value under a dotted key: `parents` are the parts before the last one. Parents that are
missing come into being as dotted tables, and the table right around the value has to be one. -/
def addDotted? (key : String) (value : Value) : (parents : List String) → Entries → Option Entries
  | [], entries => entries.add? key value
  | parent :: rest, entries =>
    match entries.get? parent with
    | none => do
      let inner ← addDotted? key value rest []
      return entries ++ [(parent, .table .dotted inner)]
    | some (.table .dotted inner) => do
      let inner ← addDotted? key value rest inner
      return entries.replace parent (.table .dotted inner)
    | some (.table .implied inner) =>
      if rest.isEmpty then none
      else do
        let inner ← addDotted? key value rest inner
        return entries.replace parent (.table .implied inner)
    | some (.tables items) =>
      match items.getLast? with
      | some (.table origin inner) =>
        if rest.isEmpty then none
        else do
          let inner ← addDotted? key value rest inner
          return entries.replace parent (.tables (items.dropLast ++ [.table origin inner]))
      | _ => none
    | some _ => none

/-- Changes the table at a path. Tables on the way that are missing come into being as implied
tables, and of tables under double brackets the last one is meant. -/
def updateAt? (change : Entries → Option Entries) : (path : List String) → Entries → Option Entries
  | [], entries => change entries
  | key :: rest, entries =>
    match entries.get? key with
    | none => do
      let inner ← updateAt? change rest []
      return entries ++ [(key, .table .implied inner)]
    | some (.table .braces _) => none
    | some (.table origin inner) => do
      let inner ← updateAt? change rest inner
      return entries.replace key (.table origin inner)
    | some (.tables items) =>
      match items.getLast? with
      | some (.table origin inner) => do
        let inner ← updateAt? change rest inner
        return entries.replace key (.tables (items.dropLast ++ [.table origin inner]))
      | _ => none
    | some _ => none

/-- Opens the table of a header: a new one, or one that was only implied so far. -/
def openTable? (key : String) (entries : Entries) : Option Entries :=
  match entries.get? key with
  | none => some (entries ++ [(key, .table .header [])])
  | some (.table .implied inner) => some (entries.replace key (.table .header inner))
  | some _ => none

/-- Opens one more table under a header in double brackets. -/
def openNext? (key : String) (entries : Entries) : Option Entries :=
  match entries.get? key with
  | none => some (entries ++ [(key, .tables [.table .header []])])
  | some (.tables items) => some (entries.replace key (.tables (items ++ [.table .header []])))
  | some _ => none

end Entries

end EventScript.Toml
