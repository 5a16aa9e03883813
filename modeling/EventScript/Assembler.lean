import EventScript.Instruction
import EventScript.Script

/-!
# The assembler

Lays out instructions one after the other. A forward target is not known when its instruction is
emitted; it is emitted with a placeholder and patched later, at the offset four bytes before the end
of the instruction.
-/

namespace EventScript

/-- The bytes emitted so far. -/
structure Assembler where
  /-- The program under construction. -/
  bytes : List UInt8 := []
  deriving DecidableEq

namespace Assembler

/-- Nothing emitted yet. -/
def empty : Assembler := {}

/-- The offset at which the next byte will stand. -/
def offset (a : Assembler) : Nat := a.bytes.length

/-- Appends bytes as they are. -/
def emitBytes (a : Assembler) (bytes : List UInt8) : Assembler := ⟨a.bytes ++ bytes⟩

/-- Appends one byte. -/
def emit (a : Assembler) (byte : UInt8) : Assembler := a.emitBytes [byte]

/-- Appends the byte of an opcode. -/
def emitOpcode (a : Assembler) (op : Opcode) : Assembler := a.emit op.toByte

/-- Appends a two-byte number. -/
def emitU16 (a : Assembler) (value : UInt16) : Assembler := a.emitBytes (Bytes.ofUInt16 value)

/-- Appends a four-byte number. -/
def emitU32 (a : Assembler) (value : UInt32) : Assembler := a.emitBytes (Bytes.ofUInt32 value)

/-- Overwrites the four bytes at an offset; there have to be four. -/
def patch? (a : Assembler) (offset : Nat) (value : UInt32) : Option Assembler :=
  if offset + 4 ≤ a.bytes.length then
    some ⟨a.bytes.take offset ++ Bytes.ofUInt32 value ++ a.bytes.drop (offset + 4)⟩
  else none

/-- Appends an instruction, operand by operand. -/
def instruction (a : Assembler) : Instruction → Assembler
  | .nop => a.emitOpcode .nop
  | .stop => a.emitOpcode .stop
  | .ret => a.emitOpcode .ret
  | .call target => (a.emitOpcode .call).emitU32 target
  | .goto target => (a.emitOpcode .goto).emitU32 target
  | .gotoIf condition target => ((a.emitOpcode .gotoIf).emit condition.toByte).emitU32 target
  | .callIf condition target => ((a.emitOpcode .callIf).emit condition.toByte).emitU32 target
  | .loadBank bank value => ((a.emitOpcode .loadBank).emit bank).emitU32 value
  | .compareBank bank value => ((a.emitOpcode .compareBank).emit bank).emitU32 value
  | .addBank bank value => ((a.emitOpcode .addBank).emit bank).emitU32 value
  | .copyBank destination source => ((a.emitOpcode .copyBank).emit destination).emit source
  | .wait => a.emitOpcode .wait
  | .lockInput => a.emitOpcode .lockInput
  | .releaseInput => a.emitOpcode .releaseInput
  | .face direction => (a.emitOpcode .face).emit direction
  | .setTemp id value => ((a.emitOpcode .setTemp).emitU16 id).emitU16 value
  | .loadTemp bank id => ((a.emitOpcode .loadTemp).emit bank).emitU16 id
  | .storeTemp id bank => ((a.emitOpcode .storeTemp).emitU16 id).emit bank

/-- Appends a list of instructions. -/
def program (a : Assembler) (instructions : List Instruction) : Assembler :=
  instructions.foldl instruction a

/-- The finished script, under an identity of the caller's choice. -/
def toScript (a : Assembler) (id : Nat) : Script := .ofBytes id a.bytes

/-- **Operand by operand is the encoding.** -/
@[simp] theorem bytes_instruction (a : Assembler) (i : Instruction) :
    (a.instruction i).bytes = a.bytes ++ i.encode := by
  cases i <;> simp [instruction, emitOpcode, emit, emitU16, emitU32, emitBytes, Instruction.encode,
    Instruction.opcode, Instruction.operands]

theorem bytes_program (a : Assembler) (instructions : List Instruction) :
    (a.program instructions).bytes = a.bytes ++ instructions.flatMap Instruction.encode := by
  induction instructions generalizing a with
  | nil => simp [program]
  | cons i rest ih =>
    rw [program, List.foldl_cons, ← program, ih, bytes_instruction, List.flatMap_cons,
      List.append_assoc]

end Assembler

end EventScript
