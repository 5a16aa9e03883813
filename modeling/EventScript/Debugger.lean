import EventScript.Host

/-!
# The debugger

Runs a machine one dispatch unit at a time and stops it at breakpoints. A breakpoint is an offset;
it is met when the running script is about to dispatch there. Having stopped at one, the debugger
remembers the place, so that going on does not stop there again before the first unit.
-/

namespace EventScript

/-- Why the debugger stopped. -/
inductive Stop where
  /-- The script is about to dispatch at a breakpoint. -/
  | breakpoint (offset : Nat)
  /-- The script waits to be resumed. -/
  | suspended
  /-- The script or the native task is over. -/
  | halted
  /-- The context was paused or disabled. -/
  | idle
  /-- The step asked for is complete. -/
  | stepped (offset : Nat)
  /-- The limit of units was reached. -/
  | stepLimit
  /-- The script was stopped by a fault. -/
  | fault (e : Fault)
  deriving DecidableEq

/-- The stop that an outcome of a unit amounts to. -/
def Stop.ofOutcome : StepOutcome → Stop
  | .idle => .idle
  | .running => .stepLimit
  | .suspended => .suspended
  | .halted => .halted

/-- A machine under observation. -/
structure Debugger (κ : Type) where
  /-- The machine. -/
  machine : Machine κ
  /-- The breakpoints, in ascending order. -/
  breakpoints : List Nat := []
  /-- The breakpoint at which the debugger stopped last, until the next unit. -/
  stoppedAt : Option Nat := none

namespace Debugger

variable {κ α : Type}

/-! ## Breakpoints -/

/-- Puts an offset in its place in an ascending list. -/
def insertAscending (offset : Nat) : List Nat → List Nat
  | [] => [offset]
  | first :: rest =>
    if offset < first then offset :: first :: rest
    else if offset = first then first :: rest
    else first :: insertAscending offset rest

/-- There is a breakpoint at the offset. -/
def hasBreakpoint (d : Debugger κ) (offset : Nat) : Bool := d.breakpoints.contains offset

/-- Adds a breakpoint. -/
def addBreakpoint (d : Debugger κ) (offset : Nat) : Debugger κ :=
  { d with breakpoints := insertAscending offset d.breakpoints }

/-- Removes a breakpoint. -/
def removeBreakpoint (d : Debugger κ) (offset : Nat) : Debugger κ :=
  { d with breakpoints := d.breakpoints.erase offset }

/-- Removes all breakpoints. -/
def clearBreakpoints (d : Debugger κ) : Debugger κ := { d with breakpoints := [] }

/-- The breakpoint at which the running script is about to dispatch. -/
def hit? (d : Debugger κ) : Option Nat := do
  let cursor ← d.machine.position?
  if d.hasBreakpoint cursor.offset then some cursor.offset else none

/-! ## Stepping -/

/-- Acts on the machine directly. -/
def act (a : Action κ α) (d : Debugger κ) : Logged (Debugger κ) (Except Fault α) :=
  let reply := a.run d.machine
  ⟨reply.result, { d with machine := reply.machine },
    reply.events.map (·.record d.machine.name)⟩

variable [Handlers κ]

/-- One dispatch unit. -/
def stepInto (d : Debugger κ) : Logged (Debugger κ) (Except Fault StepOutcome) :=
  { d with stoppedAt := none }.act Action.stepOnce

/-- Units up to the limit, as long as `keepGoing` holds of the machine after each. A breakpoint
stops the run before the unit, except that the one to `skip` is passed over at the first unit. -/
def runWhile (keepGoing : Machine κ → Bool) :
    (limit : Nat) → (skip : Option Nat) → Debugger κ → Logged (Debugger κ) Stop
  | 0, _, d => ⟨.stepLimit, d, []⟩
  | limit + 1, skip, d =>
    let stopHere : Option Nat := d.hit?.filter fun offset ↦ skip ≠ some offset
    match stopHere with
    | some offset =>
      { answer := .breakpoint offset
        state := { d with stoppedAt := some offset }
        log :=
          [⟨.debug, .debugger, d.machine.name ++ ": breakpoint at " ++ Text.hex offset 1, []⟩] }
    | none =>
      let unit := d.stepInto
      match unit.answer with
      | .error e => ⟨.fault e, unit.state, unit.log⟩
      | .ok .running =>
        if keepGoing unit.state.machine then
          let others := runWhile keepGoing limit none unit.state
          { others with log := unit.log ++ others.log }
        else
          let offset := match unit.state.machine.position? with
            | some cursor => cursor.offset
            | none => 0
          ⟨.stepped offset, unit.state, unit.log⟩
      | .ok outcome => ⟨.ofOutcome outcome, unit.state, unit.log⟩

/-- Units up to the limit; the breakpoint stopped at last does not stop the run again at once. -/
def continueWhile (keepGoing : Machine κ → Bool) (limit : Nat) (d : Debugger κ) :
    Logged (Debugger κ) Stop :=
  runWhile keepGoing limit d.stoppedAt { d with stoppedAt := none }

/-- Runs until something stops it. -/
def execute (limit : Nat) (d : Debugger κ) : Logged (Debugger κ) Stop :=
  d.continueWhile (fun _ ↦ true) limit

/-- Runs until the current subroutine has returned. -/
def stepOut (limit : Nat) (d : Debugger κ) : Logged (Debugger κ) Stop :=
  let depth := d.machine.depth
  if depth = 0 then d.execute limit
  else d.continueWhile (fun m ↦ depth ≤ m.depth) limit

/-- One unit, and the whole of the subroutine if it called one. -/
def stepOver (limit : Nat) (d : Debugger κ) : Logged (Debugger κ) Stop :=
  let depth := d.machine.depth
  let unit := d.stepInto
  match unit.answer with
  | .error e => ⟨.fault e, unit.state, unit.log⟩
  | .ok outcome =>
    if outcome = .running ∧ depth < unit.state.machine.depth then
      let others := unit.state.continueWhile (fun m ↦ depth < m.depth) limit
      { others with log := unit.log ++ others.log }
    else ⟨.ofOutcome outcome, unit.state, unit.log⟩

/-- The structure of a debugger as text. -/
def inspect (d : Debugger κ) : String :=
  "ScriptDebugger \x7b context: " ++ d.machine.inspect ++
  ", breakpoints: \x7b" ++ ", ".intercalate (d.breakpoints.map toString) ++ "\x7d" ++
  ", stopped_at: " ++ Context.inspectOption (d.stoppedAt.map toString) ++ " \x7d"

end Debugger

end EventScript
