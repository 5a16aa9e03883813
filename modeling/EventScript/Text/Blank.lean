import EventScript.Text.CodePoints

/-!
# White space

Script files kept as text may hold white space anywhere. All characters with the Unicode property
`White_Space` count, not only the ASCII ones.
-/

namespace EventScript.Text

/-- The characters with the Unicode property `White_Space`, as ascending closed ranges. -/
def blankRanges : List (Nat × Nat) :=
  [(0x9, 0xd), (0x20, 0x20), (0x85, 0x85), (0xa0, 0xa0), (0x1680, 0x1680), (0x2000, 0x200a),
   (0x2028, 0x2029), (0x202f, 0x202f), (0x205f, 0x205f), (0x3000, 0x3000)]

/-- A white-space character. -/
def isBlank (c : Char) : Bool := inRanges blankRanges c

/-- A text without the white space at its ends. -/
def trim (cs : List Char) : List Char :=
  ((cs.dropWhile isBlank).reverse.dropWhile isBlank).reverse

end EventScript.Text
