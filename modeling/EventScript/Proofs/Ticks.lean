import EventScript.Host
import EventScript.Proofs.Dispatch

/-!
# Ticks, side by side

A host treats its two contexts alike, except that the level context is stepped first. This file
names the two sides, so that what holds of both is stated once, and says what a tick comes to on
each of them: a step of the machine that the tick finds there. On the level side that is the
context with the temporaries as they are; on the primary side the level context may have written
to them just before.
-/

namespace EventScript

variable {κ α : Type}

/-- One of the two contexts of a host. -/
inductive Side where
  | primary
  | level
  deriving DecidableEq

/-- The other side. -/
def Side.other : Side → Side
  | primary => level
  | level => primary

/-- What the context of a side did in the tick. -/
def TickReport.result (r : TickReport) : Side → Except Fault StepOutcome
  | .primary => r.primary
  | .level => r.level

namespace Host

/-- The context of a side. -/
def context (h : Host κ) : Side → Context κ
  | .primary => h.primary
  | .level => h.level

/-- The context of a side with the temporaries it sees. -/
def machine (h : Host κ) (side : Side) : Machine κ :=
  { h.context side with temporaries := h.temporaries }

/-- Acts on the context of a side. -/
def on (side : Side) (a : Action κ α) (h : Host κ) : Logged (Host κ) (Except Fault α) :=
  match side with
  | .primary => h.onPrimary a
  | .level => h.onLevel a

section on

variable (side : Side) (a : Action κ α) (h : Host κ)

theorem answer_on : (h.on side a).answer = (a.run (h.machine side)).result := by
  cases side <;> rfl

theorem context_on :
    (h.on side a).state.context side = (a.run (h.machine side)).machine.toContext := by
  cases side <;> rfl

theorem context_on_of_ne {side other : Side} (hne : other ≠ side) (a : Action κ α) (h : Host κ) :
    (h.on side a).state.context other = h.context other := by
  cases side <;> cases other <;> first | rfl | exact absurd rfl hne

end on

variable [Handlers κ]

/-- The machine that a tick finds on a side. -/
def found (h : Host κ) : Side → Machine κ
  | .primary => (h.onLevel Action.step).state.machine .primary
  | .level => h.machine .level

theorem toContext_found (h : Host κ) (side : Side) : (h.found side).toContext = h.context side := by
  cases side <;> rfl

/-- **On each side, a tick is a step** of the machine that it finds there. -/
theorem result_tick (h : Host κ) (side : Side) :
    h.tick.answer.result side = (Action.step.run (h.found side)).result := by
  cases side <;> rfl

theorem context_tick (h : Host κ) (side : Side) :
    h.tick.state.context side = (Action.step.run (h.found side)).machine.toContext := by
  cases side <;> rfl

/-- The host after so many ticks. -/
def ticked (h : Host κ) : (count : Nat) → Host κ
  | 0 => h
  | count + 1 => h.tick.state.ticked count

/-- The reports of so many ticks. -/
def reports (h : Host κ) : (count : Nat) → List TickReport
  | 0 => []
  | count + 1 => h.tick.answer :: h.tick.state.reports count

end Host

end EventScript
