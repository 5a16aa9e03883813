import EventScript.Instruction
import EventScript.Machine.Operations

/-!
# Reading through a cursor

A cursor reads from an array by offset, while the laws of instructions are laws of byte lists. This
file joins the two: a read through a cursor takes from the front of the bytes left, and leaves the
cursor in front of what follows them. From here on nothing needs to look at offsets into the array.
-/

namespace EventScript

open Instruction

/-! ## Operands of a width -/

/-- A value is taken off the front of a byte string together with `width` bytes, and `decode` says
which value the bytes stand for. -/
structure Takes {α : Type} (take? : List UInt8 → Option (α × List UInt8)) (width : Nat)
    (decode : List UInt8 → α) : Prop where
  /-- Fewer bytes hold no value. -/
  none_of_lt : ∀ bytes, bytes.length < width → take? bytes = none
  /-- Enough bytes hold one. -/
  some_of_le : ∀ bytes, width ≤ bytes.length →
    take? bytes = some (decode (bytes.take width), bytes.drop width)

/-- The byte in a byte string of length one. -/
def Bytes.toUInt8 (bytes : List UInt8) : UInt8 := UInt8.ofNat (Bytes.toNat bytes)

theorem takes_byte : Takes takeByte? 1 Bytes.toUInt8 where
  none_of_lt bytes h := by
    match bytes, h with
    | [], _ => rfl
  some_of_le bytes h := by
    match bytes, h with
    | b :: rest, _ =>
      have hvalue : Bytes.toUInt8 [b] = b := by
        rw [Bytes.toUInt8, Bytes.toNat, Bytes.toNat, Nat.mul_zero, Nat.add_zero, UInt8.ofNat_toNat]
      rw [List.take_succ_cons, List.take_zero, hvalue]
      rfl

theorem takes_half : Takes takeHalf? 2 Bytes.toUInt16 where
  none_of_lt bytes h := by
    match bytes, h with
    | [], _ | [_], _ => rfl
  some_of_le bytes h := by
    match bytes, h with
    | _ :: _ :: _, _ => rfl

theorem takes_word : Takes takeWord? 4 Bytes.toUInt32 where
  none_of_lt bytes h := by
    match bytes, h with
    | [], _ | [_], _ | [_, _], _ | [_, _, _], _ => rfl
  some_of_le bytes h := by
    match bytes, h with
    | _ :: _ :: _ :: _ :: _, _ => rfl

namespace Cursor

/-- The fault of a read of `wanted` bytes that does not fit. -/
def truncation (c : Cursor) (wanted : Nat) : Fault :=
  .corruptProgram c.offset (.truncatedOperand wanted c.remaining)

@[simp] theorem script_advance (c : Cursor) (n : Nat) : (c.advance n).script = c.script := rfl

@[simp] theorem offset_advance (c : Cursor) (n : Nat) : (c.advance n).offset = c.offset + n := rfl

@[simp] theorem advance_advance (c : Cursor) (n k : Nat) :
    (c.advance n).advance k = c.advance (n + k) := by
  rw [advance, advance, advance, Nat.add_assoc]

@[simp] theorem rest_advance (c : Cursor) (n : Nat) : (c.advance n).rest = c.rest.drop n := by
  rw [rest, rest, script_advance, offset_advance, List.drop_drop]

theorem rest_advance_of_eq_append {c : Cursor} {front back : List UInt8}
    (h : c.rest = front ++ back) : (c.advance front.length).rest = back := by
  rw [rest_advance, h, List.drop_left]

theorem rest_advance_of_eq_cons {c : Cursor} {b : UInt8} {back : List UInt8}
    (h : c.rest = b :: back) : (c.advance 1).rest = back := by
  rw [rest_advance, h, List.drop_one, List.tail_cons]

/-- At the end exactly when no bytes are left. -/
theorem atEnd_iff {c : Cursor} : c.atEnd = true ↔ c.rest = [] := by
  rw [atEnd, decide_eq_true_iff, ← List.length_eq_zero_iff, length_rest, remaining]
  omega

theorem atEnd_eq_false_of_rest {c : Cursor} {b : UInt8} {back : List UInt8}
    (h : c.rest = b :: back) : c.atEnd = false := by
  rw [← Bool.not_eq_true, atEnd_iff, h]
  exact List.cons_ne_nil b back

/-- Moving over bytes that are there stays in bounds. -/
theorem inBounds_advance {c : Cursor} {n : Nat} (hc : c.InBounds) (hn : n ≤ c.remaining) :
    (c.advance n).InBounds := by
  have hoffset : c.offset ≤ c.script.length := hc
  have hroom : n ≤ c.script.length - c.offset := hn
  change c.offset + n ≤ c.script.length
  omega

/-- The next `width` bytes as a value. -/
def readAs {α : Type} (c : Cursor) (width : Nat) (decode : List UInt8 → α) :
    Except Fault (α × Cursor) := do
  let (bytes, c) ← c.read width
  return (decode bytes, c)

section readAs

variable {α : Type} {take? : List UInt8 → Option (α × List UInt8)} {width : Nat}
  {decode : List UInt8 → α} {c : Cursor}

/-- **A read takes from the front of the bytes left**, whatever its width is. -/
theorem readAs_of_some (h : Takes take? width decode) {a : α} {back : List UInt8}
    (htake : take? c.rest = some (a, back)) :
    c.readAs width decode = .ok (a, c.advance width) ∧ (c.advance width).rest = back := by
  have hle : width ≤ c.rest.length := by
    refine Nat.not_lt.mp fun hlt ↦ ?_
    rw [h.none_of_lt c.rest hlt] at htake
    cases htake
  rw [h.some_of_le c.rest hle] at htake
  cases htake
  rw [length_rest] at hle
  refine ⟨?_, rest_advance c width⟩
  rw [readAs, read_eq_ok_iff.mpr ⟨hle, rfl, rfl⟩]
  rfl

theorem exists_take? (h : Takes take? width decode) (hle : width ≤ c.rest.length) :
    ∃ a, take? c.rest = some (a, (c.advance width).rest) := by
  rw [rest_advance]
  exact ⟨_, h.some_of_le c.rest hle⟩

theorem readAs_of_none (h : Takes take? width decode) (htake : take? c.rest = none) :
    c.readAs width decode = .error (c.truncation width) := by
  have hlt : c.remaining < width := by
    rw [← length_rest]
    refine Nat.not_le.mp fun hle ↦ ?_
    rw [h.some_of_le c.rest hle] at htake
    cases htake
  rw [readAs, read, if_neg (Nat.not_le.mpr hlt)]
  rfl

end readAs

end Cursor

end EventScript
