import EventScript.Proofs.Dispatch

/-!
# Commands that step the machine

A routine asks for operations of the machine that runs it. A command may go further and step the
machine itself, from inside a step, so that the next instruction is dispatched by a command that has
not yet come to its end. A `Handler` is a routine with that freedom.

## Depth

A step inside a step runs commands, which may step again, and nothing bounds how deep this goes: a
command that steps at a jump back to itself never comes to an end. Stepping is therefore defined
level by level. `nested handler bottom depth` carries steps out down to `depth` levels, and `bottom`
is consulted below them. A step *comes to* a reply if at some depth the reply is the same whatever
`bottom` is: what lies below that depth is then never asked for, and the reply is the reply at every
greater depth as well. A step that never ends comes to nothing.

Commands that do not step are the case of depth one, and there `Action.step` is what is carried out.
-/

namespace EventScript

variable {κ α β : Type}

/-- One action after another, where the second sees the answer of the first even if it is a
refusal. -/
def Action.andThen (a : Action κ α) (next : Except Fault α → Action κ β) : Action κ β :=
  ⟨fun m ↦
    let first := a.run m
    let second := (next first.result).run first.machine
    ⟨second.result, second.machine, first.events ++ second.events⟩⟩

theorem Action.Preserves.andThen {P : Machine κ → Prop} {a : Action κ α}
    {next : Except Fault α → Action κ β} (ha : Preserves P a)
    (hnext : ∀ answer, Preserves P (next answer)) : Preserves P (a.andThen next) :=
  fun m hm ↦ hnext _ _ (ha m hm)

/-- The two ways to step a machine. -/
structure Stepping (κ : Type) where
  /-- One step as the policy has it. -/
  step : Action κ StepOutcome
  /-- One dispatch unit. -/
  stepOnce : Action κ StepOutcome

/-- A finite program of requests to the machine and steps of it. -/
inductive Handler (κ α : Type) where
  /-- Finished, with a value. -/
  | done (a : α)
  /-- Finished, with a fault. -/
  | fail (e : Fault)
  /-- A request, and what to do with its answer. -/
  | ask (request : Request κ) (next : Except Fault request.Answer → Handler κ α)
  /-- A step, and what to do with its outcome. -/
  | step (next : Except Fault StepOutcome → Handler κ α)
  /-- A dispatch unit, and what to do with its outcome. -/
  | stepOnce (next : Except Fault StepOutcome → Handler κ α)

namespace Handler

/-- Carries a handler out; `inner` says what its own steps do. -/
def perform (inner : Stepping κ) : Handler κ α → Action κ α
  | done a => pure a
  | fail e => Action.fail e
  | ask request next => request.perform.andThen fun answer ↦ (next answer).perform inner
  | step next => inner.step.andThen fun answer ↦ (next answer).perform inner
  | stepOnce next => inner.stepOnce.andThen fun answer ↦ (next answer).perform inner

/-- A routine as a handler that does not step. -/
def ofProgram : Program κ α → Handler κ α
  | .done a => done a
  | .fail e => fail e
  | .ask request next => ask request fun answer ↦ ofProgram (next answer)

@[simp] theorem perform_ofProgram (inner : Stepping κ) (p : Program κ α) :
    (ofProgram p).perform inner = p.perform := by
  induction p with
  | done a => rfl
  | fail e => rfl
  | ask request next ih =>
    ext m
    simp only [ofProgram, perform, ih]
    rfl

end Handler

/-- Commands carried out by handlers whose own steps are `inner`. -/
@[reducible] def Handlers.ofHandler (handler : κ → Handler κ Verdict) (inner : Stepping κ) :
    Handlers κ where
  handle := fun command ↦ (handler command).perform inner

/-- The core commands among handlers of this kind are carried out as their opcodes say, however far
the others go. -/
theorem coreHandlers_ofHandler [CommandSet κ] {handler : κ → Handler κ Verdict}
    (h : ∀ op, handler (CommandSet.core op) = .ofProgram (Command.core op)) (inner : Stepping κ) :
    @CoreHandlers κ _ (.ofHandler handler inner) := by
  refine @CoreHandlers.mk κ _ (.ofHandler handler inner) fun op ↦ ?_
  change (handler (CommandSet.core op)).perform inner = (Command.core op).perform
  rw [h op, Handler.perform_ofProgram]

/-- Stepping down to `depth` levels of steps inside steps, and `bottom` below them. -/
def nested (handler : κ → Handler κ Verdict) (bottom : Stepping κ) : (depth : Nat) → Stepping κ
  | 0 => bottom
  | depth + 1 =>
    let _commands := Handlers.ofHandler handler (nested handler bottom depth)
    ⟨Action.step, Action.stepOnce⟩

variable {handler : κ → Handler κ Verdict}

/-- One of the two ways to step the machine comes to an end, with the reply. -/
def ComesTo (handler : κ → Handler κ Verdict) (way : Stepping κ → Action κ StepOutcome)
    (m : Machine κ) (reply : Reply κ StepOutcome) : Prop :=
  ∃ depth, ∀ bottom, (way (nested handler bottom depth)).run m = reply

/-- The levels above a bottom that is itself nested. -/
theorem nested_nested (bottom : Stepping κ) (depth below : Nat) :
    nested handler (nested handler bottom below) depth = nested handler bottom (depth + below) := by
  induction depth with
  | zero => rw [Nat.zero_add, nested]
  | succ depth ih => rw [Nat.succ_add, nested, nested, ih]

theorem run_nested_of_le {way : Stepping κ → Action κ StepOutcome} {m : Machine κ}
    {reply : Reply κ StepOutcome} {depth greater : Nat}
    (h : ∀ bottom, (way (nested handler bottom depth)).run m = reply) (hle : depth ≤ greater)
    (bottom : Stepping κ) : (way (nested handler bottom greater)).run m = reply := by
  obtain ⟨below, rfl⟩ := Nat.exists_eq_add_of_le hle
  rw [← nested_nested]
  exact h _

/-- A step that comes to an end is a step over commands of some kind. -/
theorem ComesTo.exists_handlers {way : Stepping κ → Action κ StepOutcome} {m : Machine κ}
    {reply : Reply κ StepOutcome} (h : ComesTo handler way m reply) :
    ∃ _ : Handlers κ, (way ⟨Action.step, Action.stepOnce⟩).run m = reply := by
  obtain ⟨depth, hdepth⟩ := h
  -- At one level more than needed, a step is what is carried out.
  exact ⟨_, run_nested_of_le hdepth depth.le_succ ⟨return .idle, return .idle⟩⟩

theorem ComesTo.unique {way : Stepping κ → Action κ StepOutcome} {m : Machine κ}
    {first second : Reply κ StepOutcome} (hfirst : ComesTo handler way m first)
    (hsecond : ComesTo handler way m second) : first = second := by
  obtain ⟨depth₁, h₁⟩ := hfirst
  obtain ⟨depth₂, h₂⟩ := hsecond
  have bottom : Stepping κ := ⟨return .idle, return .idle⟩
  rw [← run_nested_of_le h₁ (Nat.le_max_left depth₁ depth₂) bottom,
    run_nested_of_le h₂ (Nat.le_max_right depth₁ depth₂) bottom]

/-- **Without steps inside, a step is the step of the command set,** at every depth above zero. -/
theorem nested_ofProgram [CommandSet κ] (bottom : Stepping κ) (depth : Nat) :
    nested (fun command : κ ↦ .ofProgram (CommandSet.routine command)) bottom (depth + 1) =
      ⟨Action.step, Action.stepOnce⟩ := by
  -- Handlers that do not step never look at the level below.
  have hcommands : Handlers.ofHandler (fun command : κ ↦ .ofProgram (CommandSet.routine command))
      (nested (fun command ↦ .ofProgram (CommandSet.routine command)) bottom depth) =
        (inferInstance : Handlers κ) := by
    simp only [Handlers.ofHandler, Handler.perform_ofProgram]
    rfl
  rw [nested, hcommands]

theorem comesTo_step_ofProgram [CommandSet κ] (m : Machine κ) :
    ComesTo (fun command ↦ .ofProgram (CommandSet.routine command)) Stepping.step m
      (Action.step.run m) :=
  ⟨1, fun bottom ↦ by rw [nested_ofProgram]⟩

theorem comesTo_stepOnce_ofProgram [CommandSet κ] (m : Machine κ) :
    ComesTo (fun command ↦ .ofProgram (CommandSet.routine command)) Stepping.stepOnce m
      (Action.stepOnce.run m) :=
  ⟨1, fun bottom ↦ by rw [nested_ofProgram]⟩

end EventScript
