/-!
# Hexadecimal numerals

Offsets, opcodes and variable ids are written with a `0x` mark and lower-case digits, some of them
filled up with zeros to a fixed number of digits. The digits themselves are also the format of
script files kept as text, so the value of a digit is defined here too, beside the digit of a value.
-/

namespace EventScript.Text

/-- The text filled up on the left with `fill` until it has `width` characters. -/
def padLeft (width : Nat) (fill : Char) (text : String) : String :=
  String.ofList (List.replicate (width - text.length) fill ++ text.toList)

/-- The text filled up on the right with `fill` until it has `width` characters. -/
def padRight (width : Nat) (fill : Char) (text : String) : String :=
  String.ofList (text.toList ++ List.replicate (width - text.length) fill)

/-- The lower-case hexadecimal digits of a number, without a leading zero. -/
def hexDigits (n : Nat) : String := String.ofList (Nat.toDigits 16 n)

/-- A number with the mark `0x` and at least `width` digits. -/
def hex (n : Nat) (width : Nat) : String := "0x" ++ padLeft width '0' (hexDigits n)

/-- The value of a hexadecimal digit, in either case. -/
def hexValue? (c : Char) : Option Nat :=
  if '0' ≤ c ∧ c ≤ '9' then some (c.toNat - '0'.toNat)
  else if 'a' ≤ c ∧ c ≤ 'f' then some (c.toNat - 'a'.toNat + 10)
  else if 'A' ≤ c ∧ c ≤ 'F' then some (c.toNat - 'A'.toNat + 10)
  else none

/-- The character whose code point is written by hexadecimal digits. -/
def codePoint? (digits : List Char) : Option Char := do
  let values ← digits.mapM hexValue?
  let n := values.foldl (fun n digit ↦ n * 16 + digit) 0
  if n.isValidChar then return Char.ofNat n else none

/-- The two lower-case digits of a byte. -/
def byteDigits (b : UInt8) : String := padLeft 2 '0' (hexDigits b.toNat)

/-- A byte string as an unbroken run of digits. -/
def bytesDigits (bytes : List UInt8) : String := String.join (bytes.map byteDigits)

end EventScript.Text
