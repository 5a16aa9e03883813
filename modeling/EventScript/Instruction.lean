import EventScript.Bytes
import EventScript.Opcode

/-!
# Instructions

An opcode with its operands, in the order in which they are stored. `Instruction.encode` writes an
instruction as bytes and `Instruction.decode?` reads one off the front of a byte string; each
undoes the other.
-/

namespace EventScript

/-- A command of the core instruction set with its operands. -/
inductive Instruction where
  | nop
  | stop
  | ret
  | call (target : UInt32)
  | goto (target : UInt32)
  | gotoIf (condition : Condition) (target : UInt32)
  | callIf (condition : Condition) (target : UInt32)
  | loadBank (bank : UInt8) (value : UInt32)
  | compareBank (bank : UInt8) (value : UInt32)
  | addBank (bank : UInt8) (value : UInt32)
  | copyBank (destination source : UInt8)
  | wait
  | lockInput
  | releaseInput
  | face (direction : UInt8)
  | setTemp (id value : UInt16)
  | loadTemp (bank : UInt8) (id : UInt16)
  | storeTemp (id : UInt16) (bank : UInt8)
  deriving DecidableEq

namespace Instruction

/-- The opcode of an instruction. -/
def opcode : Instruction → Opcode
  | nop => .nop
  | stop => .stop
  | ret => .ret
  | call _ => .call
  | goto _ => .goto
  | gotoIf _ _ => .gotoIf
  | callIf _ _ => .callIf
  | loadBank _ _ => .loadBank
  | compareBank _ _ => .compareBank
  | addBank _ _ => .addBank
  | copyBank _ _ => .copyBank
  | wait => .wait
  | lockInput => .lockInput
  | releaseInput => .releaseInput
  | face _ => .face
  | setTemp _ _ => .setTemp
  | loadTemp _ _ => .loadTemp
  | storeTemp _ _ => .storeTemp

/-- The bytes of the operands. -/
def operands : Instruction → List UInt8
  | nop | stop | ret | wait | lockInput | releaseInput => []
  | call target | goto target => Bytes.ofUInt32 target
  | gotoIf condition target | callIf condition target =>
    condition.toByte :: Bytes.ofUInt32 target
  | loadBank bank value | compareBank bank value | addBank bank value =>
    bank :: Bytes.ofUInt32 value
  | copyBank destination source => [destination, source]
  | face direction => [direction]
  | setTemp id value => Bytes.ofUInt16 id ++ Bytes.ofUInt16 value
  | loadTemp bank id => bank :: Bytes.ofUInt16 id
  | storeTemp id bank => Bytes.ofUInt16 id ++ [bank]

/-- The bytes of an instruction. -/
def encode (i : Instruction) : List UInt8 := i.opcode.toByte :: i.operands

/-- The address operand of the four commands that have one. -/
def target? : Instruction → Option UInt32
  | call target | goto target | gotoIf _ target | callIf _ target => some target
  | _ => none

/-- The instruction with another address operand, if it has one at all. -/
def retarget (i : Instruction) (target : UInt32) : Instruction :=
  match i with
  | call _ => call target
  | goto _ => goto target
  | gotoIf condition _ => gotoIf condition target
  | callIf condition _ => callIf condition target
  | other => other

@[simp] theorem length_encode (i : Instruction) : i.encode.length = i.opcode.size := by
  cases i <;> rfl

theorem one_add_length_operands (i : Instruction) : 1 + i.operands.length = i.opcode.size := by
  rw [← length_encode, encode, List.length_cons, Nat.add_comm]

/-! ## Reading instructions -/

/-- A byte off the front. -/
def takeByte? : List UInt8 → Option (UInt8 × List UInt8)
  | b :: rest => some (b, rest)
  | [] => none

/-- A two-byte number off the front. -/
def takeHalf? : List UInt8 → Option (UInt16 × List UInt8)
  | b₀ :: b₁ :: rest => some (Bytes.toUInt16 [b₀, b₁], rest)
  | _ => none

/-- A four-byte number off the front. -/
def takeWord? : List UInt8 → Option (UInt32 × List UInt8)
  | b₀ :: b₁ :: b₂ :: b₃ :: rest => some (Bytes.toUInt32 [b₀, b₁, b₂, b₃], rest)
  | _ => none

/-- A condition off the front. -/
def takeCondition? (bytes : List UInt8) : Option (Condition × List UInt8) := do
  let (code, rest) ← takeByte? bytes
  let condition ← (Condition.ofByte code).toOption
  return (condition, rest)

/-- The operands of an opcode, in the order in which its command reads them. -/
def decodeOperands? (op : Opcode) (bytes : List UInt8) : Option (Instruction × List UInt8) :=
  match op with
  | .nop => some (nop, bytes)
  | .stop => some (stop, bytes)
  | .ret => some (ret, bytes)
  | .wait => some (wait, bytes)
  | .lockInput => some (lockInput, bytes)
  | .releaseInput => some (releaseInput, bytes)
  | .call => do
    let (target, rest) ← takeWord? bytes
    return (call target, rest)
  | .goto => do
    let (target, rest) ← takeWord? bytes
    return (goto target, rest)
  | .gotoIf => do
    let (condition, rest) ← takeCondition? bytes
    let (target, rest) ← takeWord? rest
    return (gotoIf condition target, rest)
  | .callIf => do
    let (condition, rest) ← takeCondition? bytes
    let (target, rest) ← takeWord? rest
    return (callIf condition target, rest)
  | .loadBank => do
    let (bank, rest) ← takeByte? bytes
    let (value, rest) ← takeWord? rest
    return (loadBank bank value, rest)
  | .compareBank => do
    let (bank, rest) ← takeByte? bytes
    let (value, rest) ← takeWord? rest
    return (compareBank bank value, rest)
  | .addBank => do
    let (bank, rest) ← takeByte? bytes
    let (value, rest) ← takeWord? rest
    return (addBank bank value, rest)
  | .copyBank => do
    let (destination, rest) ← takeByte? bytes
    let (source, rest) ← takeByte? rest
    return (copyBank destination source, rest)
  | .face => do
    let (direction, rest) ← takeByte? bytes
    return (face direction, rest)
  | .setTemp => do
    let (id, rest) ← takeHalf? bytes
    let (value, rest) ← takeHalf? rest
    return (setTemp id value, rest)
  | .loadTemp => do
    let (bank, rest) ← takeByte? bytes
    let (id, rest) ← takeHalf? rest
    return (loadTemp bank id, rest)
  | .storeTemp => do
    let (id, rest) ← takeHalf? bytes
    let (bank, rest) ← takeByte? rest
    return (storeTemp id bank, rest)

/-- The instruction at the front of a byte string, and what follows it. -/
def decode? (bytes : List UInt8) : Option (Instruction × List UInt8) := do
  let (byte, rest) ← takeByte? bytes
  let op ← (Opcode.ofByte byte).toOption
  decodeOperands? op rest

/-! ## Writing, then reading -/

@[simp] theorem takeByte?_cons (b : UInt8) (rest : List UInt8) :
    takeByte? (b :: rest) = some (b, rest) := rfl

@[simp] theorem takeHalf?_append (v : UInt16) (rest : List UInt8) :
    takeHalf? (Bytes.ofUInt16 v ++ rest) = some (v, rest) := by
  change some (Bytes.toUInt16 (Bytes.ofUInt16 v), rest) = _
  rw [Bytes.toUInt16_ofUInt16]

@[simp] theorem takeWord?_append (v : UInt32) (rest : List UInt8) :
    takeWord? (Bytes.ofUInt32 v ++ rest) = some (v, rest) := by
  change some (Bytes.toUInt32 (Bytes.ofUInt32 v), rest) = _
  rw [Bytes.toUInt32_ofUInt32]

theorem takeCondition?_cons (code : UInt8) (rest : List UInt8) :
    takeCondition? (code :: rest) =
      (Condition.ofByte code).toOption.bind fun condition ↦ some (condition, rest) := rfl

@[simp] theorem takeCondition?_toByte (condition : Condition) (rest : List UInt8) :
    takeCondition? (condition.toByte :: rest) = some (condition, rest) := by
  rw [takeCondition?_cons, Condition.ofByte_eq_ok_iff.mpr rfl]
  rfl

theorem decodeOperands?_append (i : Instruction) (rest : List UInt8) :
    decodeOperands? i.opcode (i.operands ++ rest) = some (i, rest) := by
  cases i <;> simp [decodeOperands?, opcode, operands]

theorem decode?_cons (byte : UInt8) (rest : List UInt8) :
    decode? (byte :: rest) =
      (Opcode.ofByte byte).toOption.bind fun op ↦ decodeOperands? op rest := rfl

/-- **Writing, then reading.** An instruction is read back, and nothing behind it is touched. -/
@[simp] theorem decode?_encode_append (i : Instruction) (rest : List UInt8) :
    decode? (i.encode ++ rest) = some (i, rest) := by
  rw [encode, List.cons_append, decode?_cons, Opcode.ofByte_eq_ok_iff.mpr rfl]
  exact decodeOperands?_append i rest

/-! ## Reading, then writing -/

theorem takeByte?_eq_some_iff {bytes rest : List UInt8} {b : UInt8} :
    takeByte? bytes = some (b, rest) ↔ bytes = b :: rest := by
  cases bytes with
  | nil => simp [takeByte?]
  | cons c others => simp [takeByte?]

theorem takeHalf?_eq_some_iff {bytes rest : List UInt8} {v : UInt16} :
    takeHalf? bytes = some (v, rest) ↔ bytes = Bytes.ofUInt16 v ++ rest := by
  constructor
  · intro h
    match bytes, h with
    | b₀ :: b₁ :: _, rfl =>
      rw [Bytes.ofUInt16_toUInt16 rfl]
      rfl
  · rintro rfl
    exact takeHalf?_append v rest

theorem takeWord?_eq_some_iff {bytes rest : List UInt8} {v : UInt32} :
    takeWord? bytes = some (v, rest) ↔ bytes = Bytes.ofUInt32 v ++ rest := by
  constructor
  · intro h
    match bytes, h with
    | b₀ :: b₁ :: b₂ :: b₃ :: _, rfl =>
      rw [Bytes.ofUInt32_toUInt32 rfl]
      rfl
  · rintro rfl
    exact takeWord?_append v rest

theorem takeCondition?_eq_some_iff {bytes rest : List UInt8} {condition : Condition} :
    takeCondition? bytes = some (condition, rest) ↔ bytes = condition.toByte :: rest := by
  constructor
  · intro h
    cases bytes with
    | nil => cases h
    | cons code others =>
      rw [takeCondition?_cons] at h
      cases hcode : Condition.ofByte code with
      | error e =>
        rw [hcode] at h
        cases h
      | ok found =>
        rw [hcode] at h
        cases h
        rw [Condition.ofByte_eq_ok_iff.mp hcode]
  · rintro rfl
    exact takeCondition?_toByte condition rest

theorem eq_of_decodeOperands? {op : Opcode} {bytes rest : List UInt8} {i : Instruction}
    (h : decodeOperands? op bytes = some (i, rest)) :
    i.opcode = op ∧ bytes = i.operands ++ rest := by
  cases op <;>
    simp only [decodeOperands?, Option.bind_eq_bind, Option.bind_eq_some_iff, Option.pure_def,
      Option.some.injEq, Prod.mk.injEq, Prod.exists, takeByte?_eq_some_iff, takeHalf?_eq_some_iff,
      takeWord?_eq_some_iff, takeCondition?_eq_some_iff] at h
  case nop | stop | ret | wait | lockInput | releaseInput =>
    obtain ⟨rfl, rfl⟩ := h
    exact ⟨rfl, rfl⟩
  case call | goto | face =>
    obtain ⟨_, _, rfl, rfl, rfl⟩ := h
    exact ⟨rfl, rfl⟩
  all_goals
    obtain ⟨_, _, rfl, _, _, rfl, rfl, rfl⟩ := h
    simp [opcode, operands]

/-- **Reading, then writing.** What is read off the front are the bytes of the instruction. -/
theorem decode?_eq_some_iff {bytes rest : List UInt8} {i : Instruction} :
    decode? bytes = some (i, rest) ↔ bytes = i.encode ++ rest := by
  constructor
  · intro h
    cases bytes with
    | nil => cases h
    | cons byte others =>
      rw [decode?_cons] at h
      cases hop : Opcode.ofByte byte with
      | error e =>
        rw [hop] at h
        cases h
      | ok op =>
        rw [hop] at h
        obtain ⟨hopcode, rfl⟩ := eq_of_decodeOperands? h
        rw [Opcode.ofByte_eq_ok_iff.mp hop, ← hopcode, encode, List.cons_append]
  · rintro rfl
    exact decode?_encode_append i rest

end Instruction

end EventScript
