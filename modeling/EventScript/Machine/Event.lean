import EventScript.Log
import EventScript.Machine.Context

/-!
# Events

What a context reports while it works. Events are data: an account of a run can be searched for the
opcodes it dispatched, and only at the edge is an event worded as a log record.
-/

namespace EventScript

/-- Something a context reports. -/
inductive Event where
  /-- A disabled context was asked to start. -/
  | startRefused
  /-- A start interrupts what was in progress. -/
  | preempting (mode : Mode)
  /-- A script starts. -/
  | started (length : Nat) (table : String)
  /-- A native task starts without a script behind it. -/
  | nativeStarted
  /-- A native task has finished. -/
  | nativeFinished
  /-- The script ran off its end. -/
  | reachedEnd (offset : Nat)
  /-- An opcode is handed to its command. -/
  | dispatched (opcode : UInt8) (offset : Nat) (table : String)
  /-- The script suspended itself. -/
  | suspended (offset : Nat)
  /-- The script was stopped by a fault. -/
  | faulted (fault : Fault)
  /-- A parked script goes on. -/
  | resumed (offset : Nat)
  /-- A call found the stack full. -/
  | callRefused (target depth : Nat)
  /-- Another command table was bound. -/
  | rebound (previous next : String)
  deriving DecidableEq

namespace Event

/-- The importance of an event. -/
def level : Event → Log.Level
  | dispatched .. => .trace
  | faulted _ => .error
  | callRefused .. => .warn
  | _ => .debug

/-- The wording of an event. -/
def message : Event → String
  | startRefused => "start refused, context disabled"
  | preempting mode => "preempting " ++ mode.inspect ++ " execution"
  | started length table => s!"starting script of {length} bytes with table '" ++ table ++ "'"
  | nativeStarted => "starting native callback"
  | nativeFinished => "native callback finished"
  | reachedEnd offset => "reached end of script at " ++ Text.hex offset 1
  | dispatched opcode offset table =>
    "dispatch " ++ Text.hex opcode.toNat 2 ++ " at " ++ Text.hex offset 1 ++
      " via '" ++ table ++ "'"
  | suspended offset => "suspended at " ++ Text.hex offset 1
  | faulted fault => "script fault: " ++ fault.message
  | resumed offset => "resuming at " ++ Text.hex offset 1
  | callRefused target depth =>
    "call to " ++ Text.hex target 1 ++ s!" refused, stack full at depth {depth}"
  | rebound previous next => "command table '" ++ previous ++ "' -> '" ++ next ++ "'"

/-- The log record of an event in the context of the given name. -/
def record (name : String) (e : Event) : Log.Record :=
  ⟨e.level, .context, name ++ ": " ++ e.message, []⟩

end Event

end EventScript
