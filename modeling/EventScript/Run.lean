import EventScript.Host

/-!
# Running a script to its end

Starts a script in the primary context of a host and ticks the host until the script halts, faults
or suspends, or a limit of ticks is reached. If asked to, the run resumes the script whenever it
suspends.

Everything that happens is kept as a transcript: the log records and, after each tick, what an
onlooker sees of the host.
-/

namespace EventScript

/-- What an onlooker sees after a tick. -/
structure Observation where
  /-- What the tick came to. -/
  report : TickReport
  /-- The banks of the primary context. -/
  banks : Vector UInt32 4
  /-- Its comparison result. -/
  comparison : UInt8
  /-- Whether the player may move. -/
  gate : InputGate

/-- One entry of a transcript. -/
inductive Entry where
  /-- Something was logged. -/
  | logged (record : Log.Record)
  /-- A tick is over. -/
  | ticked (seen : Observation)

/-- The end of a run. -/
structure RunSummary where
  /-- Ticks of the host so far. -/
  ticks : UInt64
  /-- The outcome of the last tick. -/
  outcome : StepOutcome
  /-- The banks of the primary context. -/
  banks : Vector UInt32 4
  deriving DecidableEq

/-- What a run came to. -/
structure RunResult (κ α : Type) where
  /-- The answer. -/
  result : Except Fault α
  /-- The host at the end. -/
  host : Host κ
  /-- What happened, in order. -/
  transcript : List Entry

/-- The observations of a transcript. -/
def observations (transcript : List Entry) : List Observation :=
  transcript.filterMap fun entry ↦
    match entry with
    | .ticked seen => some seen
    | .logged _ => none

/-- A record of the command line. -/
def commandLineRecord (level : Log.Level) (message : String) (fields : List (String × String)) :
    Log.Record :=
  ⟨level, .commandLine, message, fields⟩

namespace Host

variable {κ : Type}

/-- What an onlooker sees of a host after a tick. -/
def observe (h : Host κ) (report : TickReport) : Observation :=
  ⟨report, h.primary.banks, h.primary.comparison, h.inputGate⟩

variable [Handlers κ]

/-- Ticks until the primary context has nothing more to do. The outcome given is the one of the tick
before. -/
def runTicks (autoResume : Bool) :
    (limit : Nat) → StepOutcome → Host κ → RunResult κ StepOutcome
  | 0, outcome, h => ⟨.ok outcome, h, []⟩
  | limit + 1, _, h =>
    let ticked := h.tick
    let seen := ticked.log.map Entry.logged ++ [.ticked (ticked.state.observe ticked.answer)]
    match ticked.answer.primary with
    | .error e => ⟨.error e, ticked.state, seen⟩
    | .ok .running =>
      let others := runTicks autoResume limit .running ticked.state
      { others with transcript := seen ++ others.transcript }
    | .ok .suspended =>
      if autoResume then
        let resumed := ticked.state.onPrimary Action.resume
        let note := commandLineRecord .debug "resuming suspended script"
          [("tick", toString ticked.answer.tick)]
        let seen := seen ++ (note :: resumed.log).map Entry.logged
        match resumed.answer with
        | .error e => ⟨.error e, resumed.state, seen⟩
        | .ok () =>
          let others := runTicks autoResume limit .suspended resumed.state
          { others with transcript := seen ++ others.transcript }
      else ⟨.ok .suspended, ticked.state, seen⟩
    | .ok outcome => ⟨.ok outcome, ticked.state, seen⟩

/-- Starts a script in the primary context and ticks the host at most `limit` times. -/
def runScript [CommandSet κ] (h : Host κ) (script : Script) (limit : Nat) (autoResume : Bool) :
    RunResult κ RunSummary :=
  let started := h.onPrimary (Action.start script .core)
  let note := commandLineRecord .info "starting script" [("bytes", toString script.length)]
  let opening := (note :: started.log).map Entry.logged
  match started.answer with
  | .error e => ⟨.error e, started.state, opening⟩
  | .ok () =>
    let run := runTicks autoResume limit .running started.state
    match run.result with
    | .error e => ⟨.error e, run.host, opening ++ run.transcript⟩
    | .ok outcome =>
      let summary : RunSummary := ⟨run.host.ticks, outcome, run.host.primary.banks⟩
      let warning :=
        if outcome = .running then
          [commandLineRecord .warn "tick limit reached with script still running"
            [("max_ticks", toString limit)]]
        else []
      let closing := warning ++
        [commandLineRecord .info "script run finished"
          [("ticks", toString summary.ticks), ("outcome", outcome.inspect)]]
      ⟨.ok summary, run.host, opening ++ run.transcript ++ closing.map Entry.logged⟩

end Host

end EventScript
