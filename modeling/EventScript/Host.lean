import EventScript.Config
import EventScript.Machine.Step

/-!
# The host

A host owns two contexts for its whole life, a primary one for regular scripts and a level one for
map and cutscene scripts, and the one set of temporaries that both see. At every tick it steps the
level context and then the primary one, and it counts the ticks and the faults. The counters are of
64 bits and wrap around.

The host also says whether the player may move: not while a script of the primary context is busy,
unless that script has given control back.
-/

namespace EventScript

/-- A counter stands for its value. -/
instance coeCounter : Coe UInt64 Nat := ⟨UInt64.toNat⟩

/-- An answer, the state left behind, and the log of getting there. -/
structure Logged (σ α : Type) where
  /-- The answer. -/
  answer : α
  /-- The state left behind. -/
  state : σ
  /-- What was logged, in order. -/
  log : List Log.Record

/-- What one tick came to. -/
structure TickReport where
  /-- The number of the tick, from one. -/
  tick : UInt64
  /-- What the level context did. -/
  level : Except Fault StepOutcome
  /-- What the primary context did. -/
  primary : Except Fault StepOutcome

/-- A step answered that there is more to do. -/
def isRunning (result : Except Fault StepOutcome) : Bool := result matches .ok .running

/-- A step ended in a fault. -/
def isFault (result : Except Fault StepOutcome) : Bool := result matches .error _

/-- The answer of a step as text. -/
def inspectResult : Except Fault StepOutcome → String
  | .ok outcome => "Ok(" ++ outcome.inspect ++ ")"
  | .error fault => "Err(" ++ fault.inspect ++ ")"

namespace TickReport

/-- Some context has more to do. -/
def isActive (r : TickReport) : Bool := isRunning r.level || isRunning r.primary

/-- Some context was stopped by a fault. -/
def hasFault (r : TickReport) : Bool := isFault r.level || isFault r.primary

end TickReport

/-- What the player may do. -/
structure InputGate where
  /-- The player may move. -/
  movementAllowed : Bool
  /-- A direction imposed on the player. -/
  direction : Option UInt8
  deriving DecidableEq

/-- Two contexts over one set of temporaries. -/
structure Host (κ : Type) where
  /-- The context of regular scripts. -/
  primary : Context κ
  /-- The context of level and cutscene scripts. -/
  level : Context κ
  /-- The temporaries of both. -/
  temporaries : Temporaries := .zero
  /-- Ticks so far. -/
  ticks : UInt64 := 0
  /-- Steps that ended in a fault so far. -/
  faults : UInt64 := 0

namespace Host

variable {κ α : Type}

/-- A host with the given settings. -/
def new [CommandSet κ] (config : EngineConfig) : Host κ :=
  { primary := Context.ofConfig "primary" config.primary
    level := Context.ofConfig "level" config.level }

/-- The primary context with the temporaries it sees. -/
def primaryMachine (h : Host κ) : Machine κ := { h.primary with temporaries := h.temporaries }

/-- The level context with the temporaries it sees. -/
def levelMachine (h : Host κ) : Machine κ := { h.level with temporaries := h.temporaries }

/-- Acts on the primary context. -/
def onPrimary (a : Action κ α) (h : Host κ) : Logged (Host κ) (Except Fault α) :=
  let reply := a.run h.primaryMachine
  { answer := reply.result
    state := { h with
      primary := reply.machine.toContext
      temporaries := reply.machine.temporaries }
    log := reply.events.map (·.record h.primary.name) }

/-- Acts on the level context. -/
def onLevel (a : Action κ α) (h : Host κ) : Logged (Host κ) (Except Fault α) :=
  let reply := a.run h.levelMachine
  { answer := reply.result
    state := { h with
      level := reply.machine.toContext
      temporaries := reply.machine.temporaries }
    log := reply.events.map (·.record h.level.name) }

/-- The log of a tick whose steps came to the given report. -/
def tickLog (r : TickReport) : List Log.Record :=
  let stopped (name : String) (result : Except Fault StepOutcome) : List Log.Record :=
    match result with
    | .ok _ => []
    | .error e =>
      [⟨.warn, .host, s!"tick {r.tick}: {name} context stopped: " ++ e.message, []⟩]
  ⟨.trace, .host, s!"tick {r.tick}: level=" ++ inspectResult r.level ++ " primary=" ++
    inspectResult r.primary, []⟩ :: (stopped "level" r.level ++ stopped "primary" r.primary)

/-- One tick: a step of the level context, then one of the primary context. -/
def tick [Handlers κ] (h : Host κ) : Logged (Host κ) TickReport :=
  let level := h.onLevel Action.step
  let primary := level.state.onPrimary Action.step
  let report : TickReport := ⟨h.ticks + 1, level.answer, primary.answer⟩
  { answer := report
    state := { primary.state with
      ticks := report.tick
      faults := h.faults + (isFault report.level).toUInt64 + (isFault report.primary).toUInt64 }
    log := level.log ++ primary.log ++ tickLog report }

/-- Up to `count` ticks, ending with the first in which nothing is left running. -/
def tickUpTo [Handlers κ] : (count : Nat) → Host κ → Logged (Host κ) (List TickReport)
  | 0, h => ⟨[], h, []⟩
  | count + 1, h =>
    let first := h.tick
    if first.answer.isActive then
      let others := tickUpTo count first.state
      ⟨first.answer :: others.answer, others.state, first.log ++ others.log⟩
    else ⟨[first.answer], first.state, first.log⟩

/-- Whether the player may move, and a direction imposed on the player. -/
def inputGate (h : Host κ) : InputGate :=
  { movementAllowed := !h.primary.busy || h.primary.inputControl
    direction := if h.primary.direction = 0 then none else some h.primary.direction }

/-- The structure of a host as text. -/
def inspect (h : Host κ) : String :=
  "ScriptHost \x7b primary: " ++ h.primaryMachine.inspect ++
  ", level: " ++ h.levelMachine.inspect ++
  ", temporaries: RefCell \x7b value: " ++ h.temporaries.inspect ++ " \x7d" ++
  ", ticks: " ++ toString h.ticks ++
  ", faults: " ++ toString h.faults ++ " \x7d"

end Host

end EventScript
