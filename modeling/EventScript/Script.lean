import EventScript.Bytes
import EventScript.Fault

/-!
# Scripts and cursors

A script is an immutable byte string. A cursor is a place in one; it is what a context keeps as its
position and on its call stack. Reading moves a cursor forward, and a read that does not fit leaves
it where it was.

Two scripts loaded separately are different places to be even when their bytes agree. A script
therefore carries an identity, and a cursor is only ever equal to a cursor of the same script.
-/

namespace EventScript

/-- A loaded script. -/
structure Script where
  /-- Tells scripts of equal bytes apart. -/
  id : Nat
  /-- The program. -/
  bytes : Array UInt8
  deriving DecidableEq

/-- A place in a script; an offset equal to the length is the end. -/
structure Cursor where
  /-- The script pointed into. -/
  script : Script
  /-- The index of the next byte. -/
  offset : Nat
  deriving DecidableEq

namespace Script

/-- A script of the given bytes. -/
def ofBytes (id : Nat) (bytes : List UInt8) : Script := ⟨id, bytes.toArray⟩

/-- The number of bytes. -/
def length (s : Script) : Nat := s.bytes.size

/-- A script without bytes. -/
def isEmpty (s : Script) : Bool := s.bytes.isEmpty

/-- The very same script. -/
def same (s t : Script) : Bool := s.id == t.id

/-- The first byte. -/
def start (s : Script) : Cursor := ⟨s, 0⟩

/-- The place at an offset, which may be the end but not lie beyond it. -/
def cursorAt (s : Script) (offset : Nat) : Except Fault Cursor :=
  if offset ≤ s.length then .ok ⟨s, offset⟩
  else .error (.corruptProgram offset (.targetOutOfBounds offset s.length))

/-- The structure of a script as text, without its bytes. -/
def inspect (s : Script) : String := s!"Script \x7b len: {s.length} \x7d"

end Script

namespace Cursor

/-- The cursor lies in its script or at its end. -/
def InBounds (c : Cursor) : Prop := c.offset ≤ c.script.length

instance (c : Cursor) : Decidable c.InBounds := inferInstanceAs (Decidable (_ ≤ _))

/-- Nothing is left to read. -/
def atEnd (c : Cursor) : Bool := c.script.length ≤ c.offset

/-- The number of bytes left to read. -/
def remaining (c : Cursor) : Nat := c.script.length - c.offset

/-- The bytes left to read. -/
def rest (c : Cursor) : List UInt8 := c.script.bytes.toList.drop c.offset

/-- The same place of the same script. -/
def same (c d : Cursor) : Bool := c.offset == d.offset && c.script.same d.script

/-- Another place of the same script. -/
def withOffset (c : Cursor) (offset : Nat) : Except Fault Cursor := c.script.cursorAt offset

/-- The cursor moved forward. -/
def advance (c : Cursor) (n : Nat) : Cursor := { c with offset := c.offset + n }

/-- The next `n` bytes and the cursor behind them. -/
def read (c : Cursor) (n : Nat) : Except Fault (List UInt8 × Cursor) :=
  if n ≤ c.remaining then
    .ok ((c.script.bytes.extract c.offset (c.offset + n)).toList, c.advance n)
  else .error (.corruptProgram c.offset (.truncatedOperand n c.remaining))

/-- The next byte. -/
def readU8 (c : Cursor) : Except Fault (UInt8 × Cursor) := do
  let (bytes, c) ← c.read 1
  return (UInt8.ofNat (Bytes.toNat bytes), c)

/-- The next two bytes as a number. -/
def readU16 (c : Cursor) : Except Fault (UInt16 × Cursor) := do
  let (bytes, c) ← c.read 2
  return (Bytes.toUInt16 bytes, c)

/-- The next four bytes as a number. -/
def readU32 (c : Cursor) : Except Fault (UInt32 × Cursor) := do
  let (bytes, c) ← c.read 4
  return (Bytes.toUInt32 bytes, c)

/-- A cursor as text: the offset over the length of the script. -/
def inspect (c : Cursor) : String :=
  "ScriptCursor(" ++ Text.hex c.offset 1 ++ "/" ++ Text.hex c.script.length 1 ++ ")"

/-! ## Bounds -/

@[simp] theorem length_rest (c : Cursor) : c.rest.length = c.remaining := by
  simp [rest, remaining, Script.length]

/-- What is read is the beginning of the bytes left. -/
theorem toList_extract_eq_take_rest (c : Cursor) (n : Nat) :
    (c.script.bytes.extract c.offset (c.offset + n)).toList = c.rest.take n := by
  simp [rest, List.extract_eq_take_drop]

@[simp] theorem length_ofBytes (id : Nat) (bytes : List UInt8) :
    (Script.ofBytes id bytes).length = bytes.length := by
  simp [Script.ofBytes, Script.length]

theorem inBounds_start (s : Script) : s.start.InBounds := Nat.zero_le _

/-- A place is given out exactly when it lies in bounds. -/
theorem cursorAt_eq_ok_iff {s : Script} {offset : Nat} {c : Cursor} :
    s.cursorAt offset = .ok c ↔ c = ⟨s, offset⟩ ∧ c.InBounds := by
  unfold Script.cursorAt InBounds
  split
  case isTrue h =>
    constructor
    · rintro ⟨⟩
      exact ⟨rfl, h⟩
    · rintro ⟨rfl, -⟩
      rfl
  case isFalse h =>
    constructor
    · intro hc
      cases hc
    · rintro ⟨rfl, hc⟩
      exact absurd hc h

theorem read_eq_ok_iff {c d : Cursor} {n : Nat} {bytes : List UInt8} :
    c.read n = .ok (bytes, d) ↔ n ≤ c.remaining ∧ bytes = c.rest.take n ∧ d = c.advance n := by
  unfold read
  rw [toList_extract_eq_take_rest]
  split
  case isTrue h =>
    constructor
    · rintro ⟨⟩
      exact ⟨h, rfl, rfl⟩
    · rintro ⟨-, rfl, rfl⟩
      rfl
  case isFalse h =>
    constructor
    · intro hc
      cases hc
    · rintro ⟨hc, -⟩
      exact absurd hc h

end Cursor

end EventScript
