import EventScript.Text.Hex

/-!
# Bare words of TOML

Numbers, dates and truth values are written as runs of letters, digits and a few marks. A run is
judged as a whole: whatever follows it has to be a blank, a separator or the end of the line, so a
word that is right only in part is wrong.
-/

namespace EventScript.Toml

/-- A character of a bare word. -/
def isWordChar (c : Char) : Bool :=
  c.isAlphanum || c == '_' || c == '+' || c == '-' || c == '.' || c == ':'

/-! ## Whole numbers -/

/-- The value of a digit in a base up to sixteen. -/
def digitValue? (base : Nat) (c : Char) : Option Nat := (Text.hexValue? c).filter (· < base)

/-- The number written by digits with single underscores between them. -/
def digits? (base : Nat) : (value : Nat) → (afterDigit : Bool) → List Char → Option Nat
  | value, afterDigit, [] => if afterDigit then some value else none
  | value, afterDigit, c :: rest =>
    if c = '_' then
      if afterDigit then digits? base value false rest else none
    else
      match digitValue? base c with
      | some digit => digits? base (value * base + digit) true rest
      | none => none

/-- An unsigned number in decimal digits, without a leading zero. -/
def decimal? (cs : List Char) : Option Nat :=
  match cs with
  | ['0'] => some 0
  | '0' :: _ => none
  | _ => digits? 10 0 false cs

/-- The sign in front of a number, and the rest. -/
def sign : List Char → Bool × List Char
  | '-' :: rest => (true, rest)
  | '+' :: rest => (false, rest)
  | rest => (false, rest)

/-- The greatest integer of a document. -/
def maxInteger : Nat := 9223372036854775807

/-- An integer in decimal, or unsigned in hexadecimal, octal or binary. -/
def integer? (cs : List Char) : Option Int :=
  match cs with
  | '0' :: 'x' :: rest => ((digits? 16 0 false rest).filter (· ≤ maxInteger)).map Int.ofNat
  | '0' :: 'o' :: rest => ((digits? 8 0 false rest).filter (· ≤ maxInteger)).map Int.ofNat
  | '0' :: 'b' :: rest => ((digits? 2 0 false rest).filter (· ≤ maxInteger)).map Int.ofNat
  | _ =>
    match sign cs with
    | (true, rest) => ((decimal? rest).filter (· ≤ maxInteger + 1)).map fun n ↦ -(n : Int)
    | (false, rest) => ((decimal? rest).filter (· ≤ maxInteger)).map Int.ofNat

/-! ## Fractional numbers -/

/-- The exponent after the mark. -/
def exponent? (cs : List Char) : Option Int :=
  match sign cs with
  | (negative, rest) =>
    (digits? 10 0 false rest).map fun n ↦ if negative then -(n : Int) else n

/-- A number `mantissa · 10 ^ exponent` too great for a double: it is no nearer to the greatest
finite double than to the power of two above it. -/
def overflows (mantissa : Nat) (exponent : Int) : Bool :=
  let magnitude : Int := (Nat.toDigits 10 mantissa).length + exponent
  let limit := Nat.pow 2 1024 - Nat.pow 2 970
  if mantissa = 0 ∨ magnitude < 300 then false
  else if 400 < magnitude then true
  else if 0 ≤ exponent then limit ≤ mantissa * Nat.pow 10 exponent.toNat
  else limit * Nat.pow 10 (-exponent).toNat ≤ mantissa

/-- A digit or an underscore. -/
def isNumeralChar (c : Char) : Bool := c.isDigit || c == '_'

/-- The mantissa and exponent of a word with a fraction, an exponent or both. -/
def scientific? (cs : List Char) : Option (Nat × Int) := do
  let whole ← decimal? (cs.takeWhile isNumeralChar)
  match cs.dropWhile isNumeralChar with
  | '.' :: rest =>
    let fraction := rest.takeWhile isNumeralChar
    let mantissa ← digits? 10 0 false fraction
    let places := (fraction.filter Char.isDigit).length
    match rest.dropWhile isNumeralChar with
    | [] => return (whole * Nat.pow 10 places + mantissa, -(places : Int))
    | mark :: rest =>
      if mark = 'e' ∨ mark = 'E' then
        let exponent ← exponent? rest
        return (whole * Nat.pow 10 places + mantissa, exponent - places)
      else none
  | mark :: rest =>
    if mark = 'e' ∨ mark = 'E' then
      let exponent ← exponent? rest
      return (whole, exponent)
    else none
  | [] => none

/-- A fractional number, infinity or not-a-number. A positive number beyond the doubles is refused.
-/
def isReal (cs : List Char) : Bool :=
  match sign cs with
  | (negative, rest) =>
    if rest = ['i', 'n', 'f'] ∨ rest = ['n', 'a', 'n'] then true
    else match scientific? rest with
      | some (mantissa, exponent) => negative || !overflows mantissa exponent
      | none => false

/-! ## Dates and times -/

/-- The number of two decimal digits. -/
def pair? (a b : Char) : Option Nat :=
  if a.isDigit ∧ b.isDigit then some ((a.toNat - '0'.toNat) * 10 + (b.toNat - '0'.toNat)) else none

/-- The days of a month. -/
def daysIn (year month : Nat) : Nat :=
  if month = 2 then
    if year % 4 = 0 ∧ (year % 100 ≠ 0 ∨ year % 400 = 0) then 29 else 28
  else if month = 4 ∨ month = 6 ∨ month = 9 ∨ month = 11 then 30
  else 31

/-- Takes a calendar date off the front. -/
def date? : List Char → Option (List Char)
  | y₀ :: y₁ :: y₂ :: y₃ :: '-' :: m₀ :: m₁ :: '-' :: d₀ :: d₁ :: rest => do
    let century ← pair? y₀ y₁
    let year ← pair? y₂ y₃
    let month ← pair? m₀ m₁
    let day ← pair? d₀ d₁
    if 1 ≤ month ∧ month ≤ 12 ∧ 1 ≤ day ∧ day ≤ daysIn (century * 100 + year) month then
      return rest
    else none
  | _ => none

/-- Takes a time of day, with or without a fraction of a second, off the front. -/
def time? : List Char → Option (List Char)
  | h₀ :: h₁ :: ':' :: m₀ :: m₁ :: ':' :: s₀ :: s₁ :: rest => do
    let hour ← pair? h₀ h₁
    let minute ← pair? m₀ m₁
    let second ← pair? s₀ s₁
    if hour ≤ 23 ∧ minute ≤ 59 ∧ second ≤ 60 then
      match rest with
      | '.' :: fraction =>
        if fraction.takeWhile Char.isDigit = [] then none
        else return fraction.dropWhile Char.isDigit
      | _ => return rest
    else none
  | _ => none

/-- A distance from universal time, or nothing. -/
def isOffset : List Char → Bool
  | [] | ['Z'] | ['z'] => true
  | [direction, h₀, h₁, ':', m₀, m₁] =>
    (direction == '+' || direction == '-') &&
      match pair? h₀ h₁, pair? m₀ m₁ with
      | some hour, some minute => hour ≤ 23 && minute ≤ 59
      | _, _ => false
  | _ => false

/-- A time of day followed by a distance from universal time or nothing. -/
def isOffsetTime (cs : List Char) : Bool :=
  match time? cs with
  | some rest => isOffset rest
  | none => false

/-- A calendar date and nothing more. -/
def isDate (cs : List Char) : Bool := date? cs = some []

/-- A date, a time of day, or a date and a time joined by a letter. -/
def isDateTime (cs : List Char) : Bool :=
  time? cs = some [] ||
    match date? cs with
    | some [] => true
    | some (joint :: rest) => (joint == 'T' || joint == 't') && isOffsetTime rest
    | none => false

end EventScript.Toml
