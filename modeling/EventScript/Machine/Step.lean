import EventScript.Command

/-!
# Steps

One step of a context is one dispatch unit or, under the policy `untilSuspend`, as many as the
budget allows. A dispatch unit takes the opcode at the cursor, looks its command up in the bound
table and carries out the routine. A step of a context that waits for a native task asks the task
once.

Any fault in a step stops the script: it is kept as the last fault, and nothing is left to resume.

A step needs to know of a command only what carrying it out does, so it is written over `Handlers`,
in which a command may be any action at all. The routines of a `CommandSet` are one such choice.
Others may still carry the core commands out as their opcodes say, and then they are `CoreHandlers`.
-/

namespace EventScript

/-- What carrying out a command does. -/
class Handlers (κ : Type) where
  /-- Carries out a command. -/
  handle : κ → Action κ Verdict

/-- The commands of a set are carried out by their routines. -/
instance {κ : Type} [CommandSet κ] : Handlers κ where
  handle := fun command ↦ (CommandSet.routine command).perform

/-- The core commands are carried out as their opcodes say; all others may do anything. -/
class CoreHandlers (κ : Type) [CommandSet κ] [Handlers κ] : Prop where
  /-- A core command does what its opcode says. -/
  handle_core : ∀ op, Handlers.handle (CommandSet.core op : κ) = (Command.core op).perform

instance {κ : Type} [CommandSet κ] : CoreHandlers κ where
  handle_core := fun op ↦ congrArg Program.perform (CommandSet.routine_core op)

/-- What a step came to. -/
inductive StepOutcome where
  /-- The context was paused or disabled. -/
  | idle
  /-- There is more to do. -/
  | running
  /-- The script waits to be resumed. -/
  | suspended
  /-- The script or the native task is over. -/
  | halted
  deriving DecidableEq

/-- The name of an outcome. -/
def StepOutcome.inspect : StepOutcome → String
  | idle => "Idle"
  | running => "Running"
  | suspended => "Suspended"
  | halted => "Halted"

/-- The outcome that a context shows after a dispatch unit. -/
def Context.outcome {κ : Type} (c : Context κ) : StepOutcome :=
  match c.activity, c.parked with
  | .script _, _ | .native _, _ => .running
  | .paused, some _ => .suspended
  | .paused, none => .halted

namespace Action

variable {κ α : Type}

/-- Parks a running script. A command that already stopped the script or handed over to a native
task has had its way, and nothing happens. -/
def park : Action κ Unit :=
  ⟨fun m ↦
    match m.activity with
    | .script cursor =>
      ⟨.ok (), { m with activity := .paused, parked := some cursor }, [.suspended cursor.offset]⟩
    | _ => ⟨.ok (), m, []⟩⟩

/-- Turns a fault into the end of the script. -/
def catching (a : Action κ α) : Action κ α :=
  ⟨fun m ↦
    let reply := a.run m
    match reply.result with
    | .ok _ => reply
    | .error e =>
      { result := .error e
        machine := { reply.machine with
          toContext := { reply.machine.halted with lastFault := some e } }
        events := reply.events ++ [.faulted e] }⟩

/-- Asks the native task once. -/
def pollNative (task : NativeTask) : Action κ StepOutcome :=
  match task.poll with
  | some task => do
    modify fun c ↦ { c with activity := .native task }
    return .running
  | none => do
    report .nativeFinished
    modify fun c ↦ { c with activity := .paused }
    return .halted

/-- Does what the verdict of an action says to the script. -/
def heeding (a : Action κ Verdict) : Action κ StepOutcome := do
  let verdict ← a
  if verdict = .suspend then
    park
  let m ← machine
  return m.outcome

variable [Handlers κ]

/-- One dispatch unit of a running script. -/
def dispatch : Action κ StepOutcome := do
  let m ← machine
  match m.activity with
  | .script cursor =>
    if cursor.atEnd then
      report (.reachedEnd cursor.offset)
      stop
      return .halted
    else
      let opcode ← readU8
      match m.table.lookup opcode with
      | .error kind => fail (.corruptProgram cursor.offset kind)
      | .ok command =>
        report (.dispatched opcode cursor.offset m.table.name)
        heeding (Handlers.handle command)
  | _ => return .idle

/-- Dispatch units up to the budget, as long as the script keeps running. -/
def dispatchUpTo : (budget : Nat) → Action κ StepOutcome
  | 0 => return .running
  | budget + 1 => do
    let outcome ← dispatch
    let m ← machine
    if outcome = .running ∧ m.mode = .normal then
      dispatchUpTo budget
    else
      return outcome

/-- A step with the given budget. -/
def stepUpTo (budget : Nat) : Action κ StepOutcome := do
  let m ← machine
  if m.enabled then
    match m.activity with
    | .paused => return .idle
    | .native task => pollNative task
    | .script _ => catching (dispatchUpTo budget)
  else
    return .idle

/-- One dispatch unit, whatever the policy. -/
def stepOnce : Action κ StepOutcome := stepUpTo 1

/-- One step as the policy has it. -/
def step : Action κ StepOutcome := do
  let m ← machine
  match m.policy with
  | .singleInstruction => stepUpTo 1
  | .untilSuspend => stepUpTo m.budget

/-- Up to `count` steps, ending with the first that does not answer that there is more to do. The
answers are listed, a fault among them. -/
def steps : (count : Nat) → Action κ (List (Except Fault StepOutcome))
  | 0 => return []
  | count + 1 =>
    ⟨fun m ↦
      let first := step.run m
      if first.result matches .ok .running then
        let others := (steps count).run first.machine
        { others with
          result := (first.result :: ·) <$> others.result
          events := first.events ++ others.events }
      else ⟨.ok [first.result], first.machine, first.events⟩⟩

end Action

end EventScript
