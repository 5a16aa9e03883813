import EventScript.Text.Quoted

/-!
# Faults

What can go wrong when a context is driven. Script bytes are compiled, trusted input, so apart from
a disabled context and a missing parked script every fault means that the program or its command
table is broken and that the host has to start the context anew.

Each cause is a constructor. `Fault.message` is the one place where it is worded, and
`Fault.inspect` shows its structure.
-/

namespace EventScript

/-- What is wrong with a program at some offset. -/
inductive Corruption where
  /-- The opcode lies beyond the last entry of the command table. -/
  | opcodeOutOfRange (opcode : UInt8) (tableLength : Nat)
  /-- The opcode lies inside the table, but nothing is registered for it. -/
  | unassignedOpcode (opcode : UInt8)
  /-- The script ends inside an operand. -/
  | truncatedOperand (wanted available : Nat)
  /-- An address points beyond the end of the script. -/
  | targetOutOfBounds (target length : Nat)
  /-- A condition code has no meaning. -/
  | invalidCondition (code : UInt8)
  deriving DecidableEq

/-- Why an operation on a context was refused, or why a running script was stopped. -/
inductive Fault where
  /-- The context is switched off. -/
  | disabled
  /-- A call found no room for its return address. -/
  | stackOverflow (capacity : Nat)
  /-- A return found no return address. -/
  | stackUnderflow
  /-- The script bytes make no sense at an offset. -/
  | corruptProgram (offset : Nat) (kind : Corruption)
  /-- There is no variable bank of that number. -/
  | invalidBankIndex (index : Nat)
  /-- There is no temporary variable of that id. -/
  | invalidTemporary (id : UInt16)
  /-- The operation needs a running script. -/
  | notRunning (operation : String)
  /-- No suspended script waits to be resumed. -/
  | nothingToResume
  deriving DecidableEq

namespace Corruption

/-- The wording of a corruption. -/
def message : Corruption → String
  | opcodeOutOfRange opcode tableLength =>
    "opcode " ++ Text.hex opcode.toNat 2 ++ s!" outside command table of {tableLength} entries"
  | unassignedOpcode opcode => "opcode " ++ Text.hex opcode.toNat 2 ++ " has no handler"
  | truncatedOperand wanted available =>
    s!"operand needs {wanted} bytes but only {available} remain"
  | targetOutOfBounds target length =>
    "target " ++ Text.hex target 1 ++ s!" outside script of {length} bytes"
  | invalidCondition code => s!"unknown condition code {code.toNat}"

/-- The structure of a corruption as text. -/
def inspect : Corruption → String
  | opcodeOutOfRange opcode tableLength =>
    s!"OpcodeOutOfRange \x7b opcode: {opcode.toNat}, table_len: {tableLength} \x7d"
  | unassignedOpcode opcode => s!"UnassignedOpcode \x7b opcode: {opcode.toNat} \x7d"
  | truncatedOperand wanted available =>
    s!"TruncatedOperand \x7b wanted: {wanted}, available: {available} \x7d"
  | targetOutOfBounds target length =>
    s!"TargetOutOfBounds \x7b target: {target}, len: {length} \x7d"
  | invalidCondition code => s!"InvalidCondition \x7b code: {code.toNat} \x7d"

end Corruption

namespace Fault

/-- The wording of a fault. -/
def message : Fault → String
  | disabled => "script context is disabled"
  | stackOverflow capacity =>
    s!"call stack overflow: capacity of {capacity} return addresses reached"
  | stackUnderflow => "call stack underflow: return without a matching call"
  | corruptProgram offset kind =>
    "corrupt program at offset " ++ Text.hex offset 1 ++ ": " ++ kind.message
  | invalidBankIndex index => s!"invalid variable bank index {index}"
  | invalidTemporary id => "invalid temporary variable " ++ Text.hex id.toNat 4
  | notRunning operation => operation ++ " requires a context in normal mode"
  | nothingToResume => "no parked script to resume"

/-- The structure of a fault as text. -/
def inspect : Fault → String
  | disabled => "Disabled"
  | stackOverflow capacity => s!"StackOverflow \x7b capacity: {capacity} \x7d"
  | stackUnderflow => "StackUnderflow"
  | corruptProgram offset kind =>
    s!"CorruptProgram \x7b offset: {offset}, kind: {kind.inspect} \x7d"
  | invalidBankIndex index => s!"InvalidBankIndex({index})"
  | invalidTemporary id => s!"InvalidTemporary({id.toNat})"
  | notRunning operation => "NotRunning \x7b operation: " ++ Text.quoted operation ++ " \x7d"
  | nothingToResume => "NothingToResume"

/-- A fault after which the context has to be started anew. -/
def isFatal : Fault → Bool
  | disabled | nothingToResume => false
  | _ => true

end Fault

end EventScript
