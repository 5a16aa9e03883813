import EventScript.CommandTable
import EventScript.Policy
import EventScript.Script
import EventScript.Temporaries

/-!
# Contexts

A context is a resumable interpreter: a place in a script, a bounded call stack, four variable banks
and the command table it runs its opcodes through. It is either paused, running a script, or waiting
for a native task; a script that suspended or gave way to a native task stays behind as a parked
cursor.

## Representation

The temporary variables belong to the host. A context does not hold them; a `Machine` is a context
together with the temporaries it sees, and that is what operations act on. Several contexts share a
set by being run on it in turn.

The call stack is a list with the most recent return address first, so that a call is `cons` and the
part of the stack below a call is literally its tail.
-/

namespace EventScript

/-- Room for return addresses. -/
def stackCapacity : Nat := 20

/-- The bank by which a message offset is handed to a command. -/
def messageBank : Nat := 0

/-- Instructions in one tick, unless configured otherwise. -/
def defaultBudget : Nat := 1024

/-- Work done outside the script engine, polled once a step. What the engine can see of it is its
answers, and those are settled by how often it says "pending" before it says "finished". -/
structure NativeTask where
  /-- The number of pending answers still to come; `none` if the task never finishes. -/
  pending : Option Nat
  deriving DecidableEq

/-- Asks the task once; `none` if it has finished. -/
def NativeTask.poll : NativeTask → Option NativeTask
  | ⟨none⟩ => some ⟨none⟩
  | ⟨some 0⟩ => none
  | ⟨some (n + 1)⟩ => some ⟨some n⟩

/-- What a context is doing. -/
inductive Activity where
  /-- Nothing. -/
  | paused
  /-- Running a script from a cursor. -/
  | script (cursor : Cursor)
  /-- Waiting for a native task. -/
  | native (task : NativeTask)
  deriving DecidableEq

/-- The kind of activity. -/
inductive Mode where
  | paused
  | normal
  | native
  deriving DecidableEq

/-- The kind of an activity. -/
def Activity.mode : Activity → Mode
  | paused => .paused
  | script _ => .normal
  | native _ => .native

/-- The name of a mode in inspection texts. -/
def Mode.inspect : Mode → String
  | paused => "Paused"
  | normal => "Normal"
  | native => "Asm"

/-- The number of a mode. -/
def Mode.code : Mode → Nat
  | paused => 0
  | normal => 1
  | native => 2

/-- A resumable interpreter. -/
structure Context (κ : Type) where
  /-- The label in log records. -/
  name : String
  /-- What the context is doing. -/
  activity : Activity := .paused
  /-- The place of a script that suspended or gave way to a native task. -/
  parked : Option Cursor := none
  /-- The result of the last comparison. -/
  comparison : UInt8 := 0
  /-- Return addresses, the most recent first. -/
  callStack : List Cursor := []
  /-- The commands. -/
  table : CommandTable κ
  /-- The variable banks. -/
  banks : Vector UInt32 4 := Vector.replicate 4 0
  /-- The kill switch: a disabled context refuses to start and never advances. -/
  enabled : Bool := true
  /-- Whether the player may move while the script is busy. -/
  inputControl : Bool := false
  /-- The direction imposed on the player; zero is none. -/
  direction : UInt8 := 0
  /-- How far a step goes. -/
  policy : Policy := .singleInstruction
  /-- The most instructions in one step. -/
  budget : Nat := defaultBudget
  /-- The fault that ended the last script. -/
  lastFault : Option Fault := none
  deriving DecidableEq

/-- A context and the temporary variables it sees. -/
structure Machine (κ : Type) extends Context κ where
  /-- The temporary variables. -/
  temporaries : Temporaries := .zero
  deriving DecidableEq

/-- The values of the banks as text. -/
def inspectBanks (banks : Vector UInt32 4) : String :=
  "[" ++ ", ".intercalate (banks.toList.map fun v ↦ toString v.toNat) ++ "]"

namespace Context

variable {κ : Type}

/-- The kind of activity. -/
def mode (c : Context κ) : Mode := c.activity.mode

/-- The number of return addresses. -/
def depth (c : Context κ) : Nat := c.callStack.length

/-- The place of the running script. -/
def position? (c : Context κ) : Option Cursor :=
  match c.activity with
  | .script cursor => some cursor
  | _ => none

/-- A script is running or waits to be resumed, or a native task is at work. -/
def busy (c : Context κ) : Bool := c.mode ≠ .paused || c.parked.isSome

/-- The context stopped: nothing runs and nothing is left to resume. -/
def halted (c : Context κ) : Context κ := { c with activity := .paused, parked := none }

/-- The context made ready for a new start with the given table. -/
def cleared (c : Context κ) (table : CommandTable κ) : Context κ :=
  { c with callStack := [], parked := none, lastFault := none, table := table }

/-- An optional value in inspection texts. -/
def inspectOption (text : Option String) : String :=
  match text with
  | none => "None"
  | some text => "Some(" ++ text ++ ")"

end Context

/-- The structure of a context as text, with the temporaries it sees. -/
def Machine.inspect {κ : Type} (m : Machine κ) : String :=
  "ScriptExecutionContext \x7b name: " ++ Text.quoted m.name ++
  ", mode: " ++ m.mode.inspect ++
  ", instruction_pointer: " ++ Context.inspectOption (m.position?.map Cursor.inspect) ++
  ", parked: " ++ Context.inspectOption (m.parked.map Cursor.inspect) ++
  ", depth: " ++ toString m.depth ++
  ", comparison_result: " ++ toString m.comparison.toNat ++
  ", command_table: " ++ Text.quoted m.table.name ++
  ", variables: " ++ inspectBanks m.banks ++
  ", temporaries: " ++ m.temporaries.inspect ++
  ", enabled: " ++ toString m.enabled ++
  ", input_control_enabled: " ++ toString m.inputControl ++
  ", input_override_direction: " ++ toString m.direction.toNat ++
  ", last_fault: " ++ Context.inspectOption (m.lastFault.map Fault.inspect) ++ " \x7d"

end EventScript
