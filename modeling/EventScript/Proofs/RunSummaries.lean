import EventScript.Run
import EventScript.Proofs.Accounting

/-!
# The summary of a run

Running a script to its end leaves a summary: the banks of the primary context and an outcome. This
file shows what the summary tells of the context that the run leaves behind.

## Where the outcome comes from

The outcome is that of the last tick. Under the core table it describes the context at that time:
nothing can switch the primary context off or hand it over to a native task, the level context least
of all, so at the start of every tick its script is running, and the answer of the tick says how it
stands afterwards. If the run ends there, the summary is right.

A run that resumes its script does so after the outcome was taken. As a rule the next tick brings
another outcome, but after the last tick that the limit allows there is none, and the summary still
says that the script waits when it has been resumed already. That is the only exception.
-/

namespace EventScript

variable {κ : Type}

/-! ## What an outcome tells -/

/-- The outcome says how the context stands. -/
structure Context.ToldBy (c : Context κ) (outcome : StepOutcome) : Prop where
  /-- A script is running. -/
  running_iff : outcome = .running ↔ c.mode = .normal
  /-- A script waits to be resumed. -/
  suspended_iff : outcome = .suspended ↔ c.mode = .paused ∧ ∃ cursor, c.parked = some cursor
  /-- Nothing runs and nothing waits. -/
  halted_iff : outcome = .halted ↔ c.mode = .paused ∧ c.parked = none

namespace Context.ToldBy

variable {c : Context κ}

theorem of_normal (h : c.mode = .normal) : c.ToldBy .running where
  running_iff := iff_of_true rfl h
  suspended_iff := iff_of_false nofun fun hpaused ↦ by rw [h] at hpaused; cases hpaused.1
  halted_iff := iff_of_false nofun fun hpaused ↦ by rw [h] at hpaused; cases hpaused.1

theorem of_parked {cursor : Cursor} (h : c.mode = .paused) (hparked : c.parked = some cursor) :
    c.ToldBy .suspended where
  running_iff := iff_of_false nofun (by rw [h]; decide)
  suspended_iff := iff_of_true rfl ⟨h, cursor, hparked⟩
  halted_iff := iff_of_false nofun (by rw [hparked]; exact fun hnone ↦ nomatch hnone.2)

theorem of_unparked (h : c.mode = .paused) (hparked : c.parked = none) : c.ToldBy .halted where
  running_iff := iff_of_false nofun (by rw [h]; decide)
  suspended_iff := iff_of_false nofun (by rw [hparked]; exact fun hsome ↦ nomatch hsome.2)
  halted_iff := iff_of_true rfl ⟨h, hparked⟩

end Context.ToldBy

/-! ## Ticks of a running script -/

section Tick

variable [CommandSet κ]

namespace Host

/-- The primary context is switched on and bound to the core table. -/
structure Serves (h : Host κ) : Prop where
  /-- The table is the core table. -/
  core : h.primary.table = .core
  /-- The context is switched on. -/
  on : h.primary.enabled = true

variable {h : Host κ}

theorem Serves.resume (hserves : h.Serves) (hmode : h.primary.mode = .paused) {cursor : Cursor}
    (hparked : h.primary.parked = some cursor) :
    (h.onPrimary Action.resume).answer = .ok () ∧ (h.onPrimary Action.resume).state.Serves ∧
      (h.onPrimary Action.resume).state.primary.mode = .normal := by
  have hholds : h.primaryMachine.Holds cursor h.primary.callStack :=
    ⟨hparked, rfl, show h.primary.mode ≠ .normal by rw [hmode]; decide⟩
  have hresume := hholds.run_resume hmode hserves.on
  rw [onPrimary, hresume]
  exact ⟨rfl, ⟨hserves.core, hserves.on⟩, rfl⟩

variable [Handlers κ] [CoreHandlers κ]

/-- A tick neither switches the primary context off nor binds another table. -/
theorem Serves.tick (hserves : h.Serves) : h.tick.state.Serves := by
  have hkept := Action.kept_of_core (m := h.found .primary) hserves.core
  exact ⟨hkept.1, hkept.2.trans hserves.on⟩

/-- **What a tick comes to for a running script**: a fault, or an outcome that says how the primary
context stands. -/
theorem Serves.tick_cases (hserves : h.Serves) (hmode : h.primary.mode = .normal) :
    (∃ e, h.tick.answer.primary = .error e) ∨
    (h.tick.answer.primary = .ok .running ∧ h.tick.state.primary.mode = .normal) ∨
    (h.tick.answer.primary = .ok .suspended ∧ h.tick.state.primary.mode = .paused ∧
      ∃ cursor, h.tick.state.primary.parked = some cursor) ∨
    (h.tick.answer.primary = .ok .halted ∧ h.tick.state.primary.mode = .paused ∧
      h.tick.state.primary.parked = none) := by
  let m : Machine κ := h.found .primary
  change (∃ e, (Action.step.run m).result = .error e) ∨
    ((Action.step.run m).result = .ok .running ∧ (Action.step.run m).machine.mode = .normal) ∨
    ((Action.step.run m).result = .ok .suspended ∧ (Action.step.run m).machine.mode = .paused ∧
      ∃ cursor, (Action.step.run m).machine.parked = some cursor) ∨
    ((Action.step.run m).result = .ok .halted ∧ (Action.step.run m).machine.mode = .paused ∧
      (Action.step.run m).machine.parked = none)
  have hnormal : m.mode = .normal := hmode
  have hdescribes : Describes m (Action.step.run m) := Action.describes_step m
  rcases hresult : (Action.step.run m).result with e | _ | _ | _ | _
  · exact .inl ⟨e, rfl⟩
  · exact absurd (hdescribes.idle_iff.mp hresult)
      (Describes.not_idle hserves.on (by rw [hnormal]; decide))
  · have hfollows : m.Follows (Action.step.run m).machine :=
      (Action.stableUnderStep_follows m).step (Action.commandsPreserve_follows hserves.core) m
        ⟨.refl m, by rw [hnormal]; decide⟩
    exact .inr (.inl ⟨rfl, (hdescribes.running hresult).resolve_right hfollows.scripted⟩)
  · exact .inr (.inr (.inl ⟨rfl, hdescribes.suspended hresult⟩))
  · obtain ⟨hpaused, hparked⟩ := hdescribes.halted hresult
    refine .inr (.inr (.inr ⟨rfl, hpaused, Option.eq_none_iff_forall_ne_some.mpr ?_⟩))
    intro cursor hcursor
    have hnative := (hparked cursor hcursor).1
    rw [hnormal] at hnative
    cases hnative

end Host

end Tick

/-! ## Runs -/

theorem observations_append (first second : List Entry) :
    observations (first ++ second) = observations first ++ observations second :=
  List.filterMap_append

theorem observations_logged (records : List Log.Record) :
    observations (records.map .logged) = [] := by
  rw [observations, List.filterMap_map, List.filterMap_eq_nil_iff]
  exact fun _ _ ↦ rfl

/-- The answer of the primary context to the last tick seen, or the one before if none was. -/
def lastAnswer (before : StepOutcome) (seen : List Observation) : Except Fault StepOutcome :=
  (seen.getLast?.map (·.report.primary)).getD (.ok before)

theorem lastAnswer_cons {before outcome : StepOutcome} {first : Observation}
    {others : List Observation} (h : first.report.primary = .ok outcome) :
    lastAnswer before (first :: others) = lastAnswer outcome others := by
  rw [lastAnswer, lastAnswer, List.getLast?_cons, ← h]
  cases others.getLast? <;> rfl

/-- The last tick that the limit allows has suspended the script, and it was resumed. The outcome
given is the one before all ticks. -/
structure ResumedAtLimit (autoResume : Bool) (limit : Nat) (before : StepOutcome)
    (seen : List Observation) : Prop where
  /-- The run resumes its script. -/
  resumes : autoResume = true
  /-- As many ticks were made as the limit allows. -/
  exhausted : seen.length = limit
  /-- The last of them has suspended the script. -/
  suspended : lastAnswer before seen = .ok .suspended

theorem resumedAtLimit_cons {autoResume : Bool} {limit : Nat} {before outcome : StepOutcome}
    {first : Observation} {others : List Observation} (h : first.report.primary = .ok outcome) :
    ResumedAtLimit autoResume (limit + 1) before (first :: others) ↔
      ResumedAtLimit autoResume limit outcome others := by
  constructor
  · intro hresumed
    exact ⟨hresumed.resumes, Nat.succ.inj hresumed.exhausted,
      (lastAnswer_cons h).symm.trans hresumed.suspended⟩
  · intro hresumed
    exact ⟨hresumed.resumes, congrArg Nat.succ hresumed.exhausted,
      (lastAnswer_cons h).trans hresumed.suspended⟩

/-- A run is one tick and then another run. -/
structure RunResult.Continues {α : Type} (run : RunResult κ α) (first : Observation)
    (others : RunResult κ α) : Prop where
  /-- The answer is that of the others. -/
  result : run.result = others.result
  /-- The host is left as by the others. -/
  host : run.host = others.host
  /-- One more tick was seen. -/
  seen : observations run.transcript = first :: observations others.transcript

namespace Host

variable [Handlers κ] {h : Host κ}

/-- What an onlooker sees after the next tick. -/
def sight (h : Host κ) : Observation := h.tick.state.observe h.tick.answer

/-! ### One round of a run -/

section Round

variable (autoResume : Bool) (limit : Nat) (outcome : StepOutcome)

theorem runTicks_of_fault {e : Fault} (hanswer : h.tick.answer.primary = .error e) :
    (h.runTicks autoResume (limit + 1) outcome).result = .error e := by
  rw [runTicks]
  simp only [hanswer]

theorem runTicks_of_running (hanswer : h.tick.answer.primary = .ok .running) :
    (h.runTicks autoResume (limit + 1) outcome).Continues h.sight
      (h.tick.state.runTicks autoResume limit .running) := by
  rw [runTicks]
  simp only [hanswer]
  refine ⟨rfl, rfl, ?_⟩
  simp only [observations_append, observations_logged]
  rfl

theorem runTicks_of_resumed (hanswer : h.tick.answer.primary = .ok .suspended)
    (hresumed : (h.tick.state.onPrimary Action.resume).answer = .ok ()) :
    (h.runTicks true (limit + 1) outcome).Continues h.sight
      ((h.tick.state.onPrimary Action.resume).state.runTicks true limit .suspended) := by
  rw [runTicks]
  simp only [hanswer, hresumed, if_true]
  refine ⟨rfl, rfl, ?_⟩
  simp only [observations_append, observations_logged]
  rfl

theorem runTicks_of_suspended (hanswer : h.tick.answer.primary = .ok .suspended) :
    (h.runTicks false (limit + 1) outcome).result = .ok .suspended ∧
      (h.runTicks false (limit + 1) outcome).host = h.tick.state := by
  rw [runTicks]
  simp only [hanswer, Bool.false_eq_true, if_false, and_self]

theorem runTicks_of_halted (hanswer : h.tick.answer.primary = .ok .halted) :
    (h.runTicks autoResume (limit + 1) outcome).result = .ok .halted ∧
      (h.runTicks autoResume (limit + 1) outcome).host = h.tick.state ∧
      observations (h.runTicks autoResume (limit + 1) outcome).transcript = [h.sight] := by
  rw [runTicks]
  simp only [hanswer, observations_append, observations_logged, true_and]
  rfl

end Round

/-! ### All rounds -/

variable {autoResume : Bool} {limit : Nat} {outcome : StepOutcome}

/-- What a run says of the primary context it leaves: the truth, unless it has resumed the script
after its last tick. Then it says that the script waits, and the script is running. -/
structure RunTells (autoResume : Bool) (limit : Nat) (before : StepOutcome)
    (run : RunResult κ StepOutcome) (last : StepOutcome) : Prop where
  /-- It is the truth. -/
  told : ¬ResumedAtLimit autoResume limit before (observations run.transcript) →
    run.host.primary.ToldBy last
  /-- It is behind by one resumption. -/
  behind : ResumedAtLimit autoResume limit before (observations run.transcript) →
    last = .suspended ∧ run.host.primary.mode = .normal

omit [Handlers κ] in
theorem RunTells.of_continues {before last : StepOutcome} {run others : RunResult κ StepOutcome}
    {first : Observation} (hcontinues : run.Continues first others)
    (hfirst : first.report.primary = .ok outcome)
    (htells : RunTells autoResume limit outcome others last) :
    RunTells autoResume (limit + 1) before run last where
  told hnot := by
    rw [hcontinues.seen, resumedAtLimit_cons hfirst] at hnot
    rw [hcontinues.host]
    exact htells.told hnot
  behind hresumed := by
    rw [hcontinues.seen, resumedAtLimit_cons hfirst] at hresumed
    rw [hcontinues.host]
    exact htells.behind hresumed

variable [CommandSet κ] [CoreHandlers κ]

/-- **What a run tells.** The script is running at the start; the outcome given says so, or it is
that of a suspension after which the script was resumed. -/
theorem Serves.runTicks_tells (hserves : h.Serves) (hmode : h.primary.mode = .normal)
    (hbefore : outcome = .running ∨ autoResume = true ∧ outcome = .suspended) {last : StepOutcome}
    (hrun : (h.runTicks autoResume limit outcome).result = .ok last) :
    RunTells autoResume limit outcome (h.runTicks autoResume limit outcome) last := by
  induction limit generalizing h outcome with
  | zero =>
    cases hrun
    rcases hbefore with rfl | ⟨rfl, rfl⟩
    · exact ⟨fun _ ↦ .of_normal hmode, fun hresumed ↦ nomatch hresumed.suspended⟩
    · exact ⟨fun hnot ↦ absurd ⟨rfl, rfl, rfl⟩ hnot, fun _ ↦ ⟨rfl, hmode⟩⟩
  | succ limit ih =>
    rcases hserves.tick_cases hmode with ⟨e, hfault⟩ | ⟨hrunning, hnormal⟩ |
      ⟨hsuspended, hpaused, cursor, hparked⟩ | ⟨hhalted, hpaused, hparked⟩
    · rw [runTicks_of_fault _ _ _ hfault] at hrun
      cases hrun
    · have hcontinues := runTicks_of_running autoResume limit outcome hrunning
      exact .of_continues hcontinues hrunning
        (ih hserves.tick hnormal (.inl rfl) (hcontinues.result.symm.trans hrun))
    · cases autoResume with
      | false =>
        obtain ⟨hresult, hhost⟩ := runTicks_of_suspended limit outcome hsuspended
        cases hresult.symm.trans hrun
        refine ⟨fun _ ↦ ?_, fun hresumed ↦ nomatch hresumed.resumes⟩
        rw [hhost]
        exact .of_parked hpaused hparked
      | true =>
        obtain ⟨hresumed, hserves', hnormal⟩ := hserves.tick.resume hpaused hparked
        have hcontinues := runTicks_of_resumed limit outcome hsuspended hresumed
        exact .of_continues hcontinues hsuspended
          (ih hserves' hnormal (.inr ⟨rfl, rfl⟩) (hcontinues.result.symm.trans hrun))
    · obtain ⟨hresult, hhost, hseen⟩ := runTicks_of_halted autoResume limit outcome hhalted
      cases hresult.symm.trans hrun
      constructor
      · rw [hhost]
        exact fun _ ↦ .of_unparked hpaused hparked
      · rw [hseen]
        intro hresumed
        have hlast : lastAnswer outcome [h.sight] = .ok .halted := hhalted
        exact nomatch hlast.symm.trans hresumed.suspended

/-! ### From the start to the summary -/

variable {script : Script}

omit [Handlers κ] [CoreHandlers κ] in
theorem serves_of_start (hstart : (h.onPrimary (Action.start script .core)).answer = .ok ()) :
    (h.onPrimary (Action.start script .core)).state.Serves ∧
      (h.onPrimary (Action.start script .core)).state.primary.mode = .normal := by
  cases henabled : h.primaryMachine.enabled with
  | false =>
    have hrefused : (h.onPrimary (Action.start script .core)).answer = .error .disabled := by
      simp only [onPrimary, Action.start, henabled, Bool.false_eq_true, if_false]
    rw [hstart] at hrefused
    cases hrefused
  | true =>
    simp only [onPrimary, Action.start, henabled, if_true]
    exact ⟨⟨rfl, henabled⟩, rfl⟩

omit [CoreHandlers κ] in
theorem runScript_of_ok {summary : RunSummary}
    (hrun : (h.runScript script limit autoResume).result = .ok summary) :
    ∃ started : Host κ, started.Serves ∧ started.primary.mode = .normal ∧
      (started.runTicks autoResume limit .running).result = .ok summary.outcome ∧
      (h.runScript script limit autoResume).host =
        (started.runTicks autoResume limit .running).host ∧
      observations (h.runScript script limit autoResume).transcript =
        observations (started.runTicks autoResume limit .running).transcript ∧
      summary.banks = (h.runScript script limit autoResume).host.primary.banks := by
  rw [runScript] at hrun ⊢
  rcases hstart : (h.onPrimary (Action.start script .core)).answer with e | ⟨⟨⟩⟩
  · simp only [hstart] at hrun
    cases hrun
  · obtain ⟨hserves, hmode⟩ := serves_of_start hstart
    simp only [hstart] at hrun ⊢
    split at hrun
    next e hfault => cases hrun
    next last hlast =>
      cases hrun
      refine ⟨_, hserves, hmode, hlast, ?_⟩
      simp only [observations_append, observations_logged, List.nil_append, List.append_nil,
        and_self]

end Host

variable [CommandSet κ] [Handlers κ] [CoreHandlers κ]

/-- **A summary tells the final state.** Its banks are those of the primary context that the run
leaves. Its outcome says how that context stands, except after a run that resumed the script after
the last tick that its limit allows. -/
theorem summary_tells_final_state {h : Host κ} {script : Script} {limit : Nat} {autoResume : Bool}
    {summary : RunSummary}
    (hrun : (h.runScript script limit autoResume).result = .ok summary) :
    let run := h.runScript script limit autoResume
    summary.banks = run.host.primary.banks ∧
      (run.host.primary.ToldBy summary.outcome ↔
        ¬ResumedAtLimit autoResume limit .running (observations run.transcript)) := by
  intro run
  obtain ⟨started, hserves, hmode, hlast, hhost, hseen, hbanks⟩ := Host.runScript_of_ok hrun
  have htells := hserves.runTicks_tells hmode (.inl rfl) hlast
  refine ⟨hbanks, ?_⟩
  rw [show run.host = _ from hhost, show observations run.transcript = _ from hseen]
  constructor
  · intro htold hresumed
    obtain ⟨hsuspended, hnormal⟩ := htells.behind hresumed
    have hpaused := (htold.suspended_iff.mp hsuspended).1
    rw [hnormal] at hpaused
    cases hpaused
  · exact htells.told

/-- A bank loaded, a suspension, and two instructions behind it. -/
def intermittentScript : Script := .ofBytes 0 [0x07, 0x03, 0x09, 0x00, 0x00, 0x00, 0x0b, 0x00, 0x01]

/-- The script waits after the second tick and is resumed. The third tick is the last that the limit
allows, and the summary says that the script is running, as it is. -/
theorem summary_tells_final_state_resumed :
    let run := (Host.new {} : Host Opcode).runScript intermittentScript 3 true
    run.result = .ok ⟨3, .running, #v[0, 0, 0, 9]⟩ ∧
      (observations run.transcript).map (·.report.primary) =
        [.ok .running, .ok .suspended, .ok .running] ∧
      run.host.primary.banks = #v[0, 0, 0, 9] ∧ run.host.primary.ToldBy .running := by
  intro run
  have hresult : run.result = .ok ⟨3, .running, #v[0, 0, 0, 9]⟩ := rfl
  obtain ⟨hbanks, htold⟩ := summary_tells_final_state hresult
  exact ⟨hresult, rfl, hbanks.symm, htold.mpr fun hresumed ↦ nomatch hresumed.suspended⟩

/-- **A summary is behind by one resumption** if the limit ends the run with the tick that suspends
the script: it says that the script waits, and the script is running. -/
theorem summary_behind_at_limit :
    let run := (Host.new {} : Host Opcode).runScript (.ofBytes 0 [0x0b, 0x01]) 1 true
    run.result = .ok ⟨1, .suspended, #v[0, 0, 0, 0]⟩ ∧ run.host.primary.mode = .normal ∧
      run.host.primary.parked = none ∧ ¬run.host.primary.ToldBy .suspended :=
  ⟨rfl, rfl, rfl, fun htold ↦ nomatch (htold.suspended_iff.mp rfl).1⟩

end EventScript
