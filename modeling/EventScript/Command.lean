import EventScript.Machine.Routine

/-!
# The core commands

The routine of each core opcode, the core command table, and fresh contexts bound to it. Operands
are read in the order in which they are stored, and before anything is changed.
-/

namespace EventScript

namespace Command

open Request Program

variable {κ : Type}

/-- Reads a condition code; the fault for an unknown one names the place of the code. -/
def readCondition : Program κ Condition := do
  let context ← send look
  let offset := match context.position? with
    | some cursor => cursor.offset
    | none => 0
  let code ← send readU8
  match Condition.ofByte code with
  | .ok condition => return condition
  | .error _ => fail (.corruptProgram offset (.invalidCondition code))

/-- The condition holds for the last comparison. -/
def judge (condition : Condition) : Program κ Bool := do
  let context ← send look
  return condition.holds context.comparison

/-- What each core opcode does. -/
def core : Opcode → Program κ Verdict
  | .nop => return .proceed
  | .stop => do
    send stop
    return .proceed
  | .ret => do
    send ret
    return .proceed
  | .call => do
    let target ← send readTarget
    send (call target)
    return .proceed
  | .goto => do
    let target ← send readTarget
    send (jump target)
    return .proceed
  | .gotoIf => do
    let condition ← readCondition
    let target ← send readTarget
    if ← judge condition then
      send (jump target)
    return .proceed
  | .callIf => do
    let condition ← readCondition
    let target ← send readTarget
    if ← judge condition then
      send (call target)
    return .proceed
  | .loadBank => do
    let bank ← send readU8
    let value ← send readU32
    send (writeBank bank.toNat value)
    return .proceed
  | .compareBank => do
    let bank ← send readU8
    let value ← send readU32
    let current ← send (readBank bank.toNat)
    send (setComparison (comparisonOf current value))
    return .proceed
  | .addBank => do
    let bank ← send readU8
    let value ← send readU32
    let current ← send (readBank bank.toNat)
    send (writeBank bank.toNat (current + value))
    return .proceed
  | .copyBank => do
    let destination ← send readU8
    let source ← send readU8
    let value ← send (readBank source.toNat)
    send (writeBank destination.toNat value)
    return .proceed
  | .wait => return .suspend
  | .lockInput => do
    send (setInputControl false)
    return .proceed
  | .releaseInput => do
    send (setInputControl true)
    send (setDirection 0)
    return .proceed
  | .face => do
    let direction ← send readU8
    send (setDirection direction)
    return .proceed
  | .setTemp => do
    let id ← send readU16
    let value ← send readU16
    send (writeTemporary id value)
    return .proceed
  | .loadTemp => do
    let bank ← send readU8
    let id ← send readU16
    let value ← send (readTemporary id)
    send (writeBank bank.toNat value.toUInt32)
    return .proceed
  | .storeTemp => do
    let id ← send readU16
    let bank ← send readU8
    let value ← send (readBank bank.toNat)
    send (writeTemporary id value.toUInt16)
    return .proceed

end Command

/-- A type of command names, each with its routine, the core commands among them. -/
class CommandSet (κ : Type) where
  /-- The name of a core command. -/
  core : Opcode → κ
  /-- What a command does. -/
  routine : κ → Routine κ
  /-- A core command does what its opcode says. -/
  routine_core : ∀ op, routine (core op) = Command.core op

/-- The core commands by themselves are named by their opcodes. -/
instance : CommandSet Opcode where
  core := id
  routine := Command.core
  routine_core := fun _ ↦ rfl

variable {κ : Type} [CommandSet κ]

/-- The table every context starts with. -/
def CommandTable.core : CommandTable κ :=
  ⟨"core", Opcode.all.map fun op ↦ some (CommandSet.core op)⟩

/-- A paused context bound to the core table. -/
def Context.new (name : String) : Context κ := { name := name, table := .core }

/-- A fresh machine with temporaries of its own. -/
def Machine.new (name : String) : Machine κ := { Context.new name with }

/-- A core opcode finds its own command in the core table. -/
@[simp] theorem CommandTable.lookup_core (op : Opcode) :
    (CommandTable.core : CommandTable κ).lookup op.toByte = .ok (CommandSet.core op) := by
  rw [CommandTable.lookup, CommandTable.core, List.getElem?_map, Opcode.getElem?_all_toByte]
  rfl

end EventScript
