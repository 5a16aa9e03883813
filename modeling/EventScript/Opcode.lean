/-!
# Opcodes and conditions

The instruction set every context starts with. An opcode is one byte; the sizes count it together
with its operands. Conditional commands carry a condition code, which is judged against the result
of the last comparison: less, equal or greater.
-/

namespace EventScript

/-- A byte that names no member of a closed set of codes. -/
structure UnknownCode where
  /-- The set of codes. -/
  set : String
  /-- The byte. -/
  value : UInt8
  deriving DecidableEq

/-- The wording of an unknown code. -/
def UnknownCode.message (e : UnknownCode) : String :=
  "No discriminant in enum `" ++ e.set ++ "` matches the value `" ++ toString e.value.toNat ++ "`"

/-- A command of the core instruction set. -/
inductive Opcode where
  | nop
  | stop
  | ret
  | call
  | goto
  | gotoIf
  | callIf
  | loadBank
  | compareBank
  | addBank
  | copyBank
  | wait
  | lockInput
  | releaseInput
  | face
  | setTemp
  | loadTemp
  | storeTemp
  deriving DecidableEq

namespace Opcode

/-- All opcodes in the order of their bytes. -/
def all : List Opcode :=
  [nop, stop, ret, call, goto, gotoIf, callIf, loadBank, compareBank, addBank, copyBank, wait,
   lockInput, releaseInput, face, setTemp, loadTemp, storeTemp]

/-- The byte of an opcode. -/
def toByte : Opcode → UInt8
  | nop => 0x00
  | stop => 0x01
  | ret => 0x02
  | call => 0x03
  | goto => 0x04
  | gotoIf => 0x05
  | callIf => 0x06
  | loadBank => 0x07
  | compareBank => 0x08
  | addBank => 0x09
  | copyBank => 0x0a
  | wait => 0x0b
  | lockInput => 0x0c
  | releaseInput => 0x0d
  | face => 0x0e
  | setTemp => 0x0f
  | loadTemp => 0x10
  | storeTemp => 0x11

/-- The opcode of a byte. -/
def ofByte (byte : UInt8) : Except UnknownCode Opcode :=
  match all[byte.toNat]? with
  | some op => .ok op
  | none => .error ⟨"OpCode", byte⟩

/-- The number of bytes of an instruction, operands included. -/
def size : Opcode → Nat
  | nop | stop | ret | wait | lockInput | releaseInput => 1
  | face => 2
  | copyBank => 3
  | loadTemp | storeTemp => 4
  | setTemp | call | goto => 5
  | gotoIf | callIf | loadBank | compareBank | addBank => 6

/-- The assembler word of an opcode. -/
def mnemonic : Opcode → String
  | nop => "nop"
  | stop => "end"
  | ret => "return"
  | call => "call"
  | goto => "goto"
  | gotoIf => "goto_if"
  | callIf => "call_if"
  | loadBank => "load_bank"
  | compareBank => "compare_bank"
  | addBank => "add_bank"
  | copyBank => "copy_bank"
  | wait => "wait"
  | lockInput => "lock_input"
  | releaseInput => "release_input"
  | face => "face"
  | setTemp => "set_temp"
  | loadTemp => "load_temp"
  | storeTemp => "store_temp"

/-- The opcode of an assembler word. -/
def ofMnemonic? (word : String) : Option Opcode := all.find? fun op ↦ op.mnemonic == word

/-- The name of an opcode in inspection texts. -/
def inspect : Opcode → String
  | nop => "Nop"
  | stop => "End"
  | ret => "Return"
  | call => "Call"
  | goto => "Goto"
  | gotoIf => "GotoIf"
  | callIf => "CallIf"
  | loadBank => "LoadBank"
  | compareBank => "CompareBank"
  | addBank => "AddBank"
  | copyBank => "CopyBank"
  | wait => "Wait"
  | lockInput => "LockInput"
  | releaseInput => "ReleaseInput"
  | face => "Face"
  | setTemp => "SetTemp"
  | loadTemp => "LoadTemp"
  | storeTemp => "StoreTemp"

@[simp] theorem length_all : all.length = 18 := rfl

theorem getElem?_all_toByte (op : Opcode) : all[op.toByte.toNat]? = some op := by
  cases op <;> rfl

/-- The byte of an opcode names it, and no other byte does. -/
theorem ofByte_eq_ok_iff {byte : UInt8} {op : Opcode} :
    ofByte byte = .ok op ↔ byte = op.toByte := by
  constructor
  · intro h
    unfold ofByte at h
    split at h
    case h_1 found hfound =>
      cases h
      have hlt : byte.toNat < 18 := (List.getElem?_eq_some_iff.mp hfound).1
      apply UInt8.toNat_inj.mp
      generalize byte.toNat = n at hlt hfound
      match n, hlt with
      | 0, _ | 1, _ | 2, _ | 3, _ | 4, _ | 5, _ | 6, _ | 7, _ | 8, _ | 9, _ | 10, _ | 11, _
      | 12, _ | 13, _ | 14, _ | 15, _ | 16, _ | 17, _ =>
        cases hfound
        rfl
      | _ + 18, h => omega
    case h_2 => cases h
  · rintro rfl
    rw [ofByte, getElem?_all_toByte]

end Opcode

/-! ## Conditions -/

/-- When a conditional command acts, in terms of the last comparison. -/
inductive Condition where
  | less
  | equal
  | greater
  | lessOrEqual
  | greaterOrEqual
  | notEqual
  deriving DecidableEq

/-- The comparison result for an unsigned order. -/
def comparisonOf (left right : UInt32) : UInt8 :=
  if left < right then 0 else if left = right then 1 else 2

namespace Condition

/-- All conditions in the order of their codes. -/
def all : List Condition := [less, equal, greater, lessOrEqual, greaterOrEqual, notEqual]

/-- The code of a condition. -/
def toByte : Condition → UInt8
  | less => 0
  | equal => 1
  | greater => 2
  | lessOrEqual => 3
  | greaterOrEqual => 4
  | notEqual => 5

/-- The condition of a code. -/
def ofByte (byte : UInt8) : Except UnknownCode Condition :=
  match all[byte.toNat]? with
  | some condition => .ok condition
  | none => .error ⟨"Condition", byte⟩

/-- Whether the condition holds for a comparison result: 0 less, 1 equal, 2 greater. A context may
carry another byte, for which only `notEqual` holds. -/
def holds (condition : Condition) (comparison : UInt8) : Bool :=
  match condition with
  | less => comparison == 0
  | equal => comparison == 1
  | greater => comparison == 2
  | lessOrEqual => comparison == 0 || comparison == 1
  | greaterOrEqual => comparison == 2 || comparison == 1
  | notEqual => comparison != 1

/-- The name of a condition in inspection texts. -/
def inspect : Condition → String
  | less => "Less"
  | equal => "Equal"
  | greater => "Greater"
  | lessOrEqual => "LessOrEqual"
  | greaterOrEqual => "GreaterOrEqual"
  | notEqual => "NotEqual"

theorem getElem?_all_toByte (condition : Condition) :
    all[condition.toByte.toNat]? = some condition := by
  cases condition <;> rfl

/-- The code of a condition names it, and no other byte does. -/
theorem ofByte_eq_ok_iff {byte : UInt8} {condition : Condition} :
    ofByte byte = .ok condition ↔ byte = condition.toByte := by
  constructor
  · intro h
    unfold ofByte at h
    split at h
    case h_1 found hfound =>
      cases h
      have hlt : byte.toNat < 6 := (List.getElem?_eq_some_iff.mp hfound).1
      apply UInt8.toNat_inj.mp
      generalize byte.toNat = n at hlt hfound
      match n, hlt with
      | 0, _ | 1, _ | 2, _ | 3, _ | 4, _ | 5, _ =>
        cases hfound
        rfl
      | _ + 6, h => omega
    case h_2 => cases h
  · rintro rfl
    rw [ofByte, getElem?_all_toByte]

end Condition

end EventScript
