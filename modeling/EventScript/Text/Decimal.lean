/-!
# Decimal numerals

Whole numbers are read from digits with or without a plus sign in front, and leading zeros do not
count. Numerals with a fraction or an exponent are recognised and not read, because nothing depends
on their value.
-/

namespace EventScript.Text

/-- The number written by decimal digits. -/
def ofDigits (digits : List Char) : Nat :=
  digits.foldl (fun n c ↦ n * 10 + (c.toNat - '0'.toNat)) 0

/-- A whole number in decimal digits, with or without a plus sign. -/
def natural? (cs : List Char) : Option Nat :=
  let digits := match cs with
    | '+' :: rest => rest
    | cs => cs
  if digits.isEmpty || !digits.all Char.isDigit then none else some (ofDigits digits)

/-- The text without a sign in front. -/
def dropSign (cs : List Char) : List Char :=
  match cs with
  | '+' :: rest => rest
  | '-' :: rest => rest
  | cs => cs

/-- An exponent, or nothing. -/
def isExponent (cs : List Char) : Bool :=
  match cs with
  | [] => true
  | mark :: rest =>
    (mark == 'e' || mark == 'E') && !(dropSign rest).isEmpty && (dropSign rest).all Char.isDigit

/-- A numeral of the form `12`, `1.5`, `.5`, `1.` or `1e-3`, or a word for infinity or for no
number, with or without a sign. -/
def isDecimal (cs : List Char) : Bool :=
  let cs := dropSign cs
  let whole := cs.takeWhile Char.isDigit
  let (fraction, rest) := match cs.dropWhile Char.isDigit with
    | '.' :: rest => (rest.takeWhile Char.isDigit, rest.dropWhile Char.isDigit)
    | rest => ([], rest)
  ["inf", "infinity", "nan"].contains (String.ofList (cs.map Char.toLower)) ||
    (!(whole ++ fraction).isEmpty && isExponent rest)

end EventScript.Text
