import EventScript.Proofs.RunSummaries

/-!
# The rounds of a run

A run ticks its host over and over. This file takes a run apart into *rounds*: a round is one tick
and, where the run resumes its script, the resumption behind it.

## Where the limits come in

What a round does depends on the host it begins with and on whether the run resumes its script. It
does not depend on how many rounds are still allowed, and a run that resumes goes on wherever one
that does not goes on, and from the same host. The limit only cuts the rounds off. Hence runs of one
script that differ in their limits see the same ticks for as long as both last, and a run that ended
before its limit is the run of any greater one, log and all: the one record in which the limit is
named is written only when the limit was reached.
-/

namespace EventScript

variable {κ α : Type}

/-- The run with something in front of its transcript. -/
def RunResult.behind (front : List Entry) (run : RunResult κ α) : RunResult κ α :=
  { run with transcript := front ++ run.transcript }

namespace Host

variable [Handlers κ]

/-! ## Rounds -/

/-- The host with which a run goes on after the next tick, if it does: the script has more to do, or
it waits and is resumed. -/
def onward (autoResume : Bool) (h : Host κ) : Option (Host κ) :=
  match h.tick.answer.primary with
  | .ok .running => some h.tick.state
  | .ok .suspended =>
    if autoResume then
      match (h.tick.state.onPrimary Action.resume).answer with
      | .ok () => some (h.tick.state.onPrimary Action.resume).state
      | .error _ => none
    else none
  | _ => none

/-- The hosts that a run of up to `limit` ticks goes into its ticks with. -/
def rounds (autoResume : Bool) : (limit : Nat) → Host κ → List (Host κ)
  | 0, _ => []
  | limit + 1, h =>
    h :: match h.onward autoResume with
      | some next => next.rounds autoResume limit
      | none => []

variable {h next : Host κ} {autoResume : Bool} {limit : Nat}

theorem rounds_of_onward (hnext : h.onward autoResume = some next) (limit : Nat) :
    h.rounds autoResume (limit + 1) = h :: next.rounds autoResume limit := by
  rw [rounds, hnext]

theorem rounds_of_no_onward (hlast : h.onward autoResume = none) (limit : Nat) :
    h.rounds autoResume (limit + 1) = [h] := by
  rw [rounds, hlast]

theorem length_rounds_le (autoResume : Bool) (limit : Nat) (h : Host κ) :
    (h.rounds autoResume limit).length ≤ limit := by
  induction limit generalizing h with
  | zero => exact Nat.le_refl 0
  | succ limit ih =>
    rcases honward : h.onward autoResume with _ | next
    · rw [rounds_of_no_onward honward]
      exact Nat.succ_le_succ (Nat.zero_le limit)
    · rw [rounds_of_onward honward, List.length_cons]
      exact Nat.succ_le_succ (ih next)

/-- **A greater limit only adds rounds.** -/
theorem rounds_prefix {greater : Nat} (hle : limit ≤ greater) (h : Host κ) :
    h.rounds autoResume limit <+: h.rounds autoResume greater := by
  induction limit generalizing h greater with
  | zero => exact List.nil_prefix
  | succ limit ih =>
    obtain ⟨greater, rfl⟩ := Nat.exists_eq_add_one_of_ne_zero (Nat.ne_zero_of_lt hle)
    rcases honward : h.onward autoResume with _ | next
    · have hsame : h.rounds autoResume (limit + 1) = h.rounds autoResume (greater + 1) :=
        (rounds_of_no_onward honward limit).trans (rounds_of_no_onward honward greater).symm
      exact hsame ▸ List.prefix_refl _
    · rw [rounds_of_onward honward, rounds_of_onward honward]
      exact List.cons_prefix_cons.mpr ⟨rfl, ih (Nat.le_of_succ_le_succ hle) next⟩

theorem onward_of_unresumed (hnext : h.onward false = some next) : h.onward true = some next := by
  rw [onward] at hnext ⊢
  split at hnext
  case h_1 => exact hnext
  case h_2 => cases hnext
  case h_3 => cases hnext

/-- **Resuming only adds rounds.** -/
theorem rounds_unresumed_prefix (limit : Nat) (h : Host κ) :
    h.rounds false limit <+: h.rounds true limit := by
  induction limit generalizing h with
  | zero => exact List.nil_prefix
  | succ limit ih =>
    rcases honward : h.onward false with _ | next
    · rw [rounds_of_no_onward honward, rounds]
      exact List.cons_prefix_cons.mpr ⟨rfl, List.nil_prefix⟩
    · rw [rounds_of_onward honward, rounds_of_onward (onward_of_unresumed honward)]
      exact List.cons_prefix_cons.mpr ⟨rfl, ih next⟩

/-! ## The course of a round -/

/-- What is logged in a tick, and what is seen after it. -/
def account (h : Host κ) : List Entry := h.tick.log.map .logged ++ [.ticked h.sight]

theorem observations_account (h : Host κ) : observations h.account = [h.sight] := by
  rw [account, observations_append, observations_logged]
  rfl

variable [CommandSet κ]

/-- The primary context runs a script under the core table. -/
structure AtWork (h : Host κ) : Prop extends h.Serves where
  /-- The script is running. -/
  normal : h.primary.mode = .normal

/-- After the next tick the run goes on with another host. -/
structure GoesOn (autoResume : Bool) (h next : Host κ) : Prop where
  /-- It is the next round that begins with that host. -/
  onward : h.onward autoResume = some next
  /-- The script is running there. -/
  work : next.AtWork
  /-- One tick has passed. -/
  ticks : next.ticks = h.ticks + 1
  /-- The run is the tick and then the run of that host. -/
  run : ∃ outcome front, h.tick.answer.primary = .ok outcome ∧ observations front = [h.sight] ∧
    ∀ limit before, h.runTicks autoResume (limit + 1) before =
      (next.runTicks autoResume limit outcome).behind front

/-- The next tick is the last of the run, whatever the limit is. -/
structure Ends (autoResume : Bool) (h : Host κ) : Prop where
  /-- No round follows. -/
  onward : h.onward autoResume = none
  /-- The script is not running any more. -/
  answer : h.tick.answer.primary ≠ .ok .running
  /-- The run is the tick, and its answer is that of the tick. -/
  run : ∃ front, observations front = [h.sight] ∧
    ∀ limit before, h.runTicks autoResume (limit + 1) before =
      ⟨h.tick.answer.primary, h.tick.state, front⟩

variable [CoreHandlers κ]

namespace AtWork

/-- **A round goes on or ends the run.** That a script cannot be resumed does not come up. -/
theorem goesOn_or_ends (hwork : h.AtWork) (autoResume : Bool) :
    (∃ next, GoesOn autoResume h next) ∨ Ends autoResume h := by
  have hserves : h.tick.state.Serves := hwork.tick
  rcases hwork.tick_cases hwork.normal with ⟨e, hfault⟩ | ⟨hrunning, hnormal⟩ |
    ⟨hsuspended, hpaused, cursor, hparked⟩ | ⟨hhalted, -, -⟩
  · refine .inr ⟨by rw [onward, hfault], by simp [hfault], h.account,
      observations_account h, fun limit before ↦ ?_⟩
    rw [runTicks]
    simp only [hfault]
    rfl
  · refine .inl ⟨h.tick.state, by rw [onward, hrunning], ⟨hserves, hnormal⟩, rfl, .running,
      h.account, hrunning, observations_account h, fun limit before ↦ ?_⟩
    rw [runTicks]
    simp only [hrunning]
    rfl
  · cases autoResume with
    | false =>
      refine .inr ⟨by rw [onward, hsuspended]; rfl, by simp [hsuspended], h.account,
        observations_account h, fun limit before ↦ ?_⟩
      rw [runTicks]
      simp only [hsuspended, Bool.false_eq_true, if_false]
      rfl
    | true =>
      obtain ⟨hresumed, hserves', hnormal⟩ := hserves.resume hpaused hparked
      refine .inl ⟨(h.tick.state.onPrimary Action.resume).state, ?_, ⟨hserves', hnormal⟩, rfl,
        .suspended, h.account ++ (commandLineRecord .debug "resuming suspended script"
          [("tick", toString h.tick.answer.tick)] ::
            (h.tick.state.onPrimary Action.resume).log).map .logged, hsuspended, ?_,
        fun limit before ↦ ?_⟩
      · rw [onward, hsuspended]
        simp only [if_true, hresumed]
      · rw [observations_append, observations_logged, observations_account, List.append_nil]
      · rw [runTicks]
        simp only [hsuspended, if_true, hresumed]
        rfl
  · refine .inr ⟨by rw [onward, hhalted], by simp [hhalted], h.account,
      observations_account h, fun limit before ↦ ?_⟩
    rw [runTicks]
    simp only [hhalted]
    rfl

/-- **An onlooker sees one tick a round.** -/
theorem observations_runTicks (hwork : h.AtWork) (autoResume : Bool) (limit : Nat)
    (before : StepOutcome) :
    observations (h.runTicks autoResume limit before).transcript =
      (h.rounds autoResume limit).map sight := by
  induction limit generalizing h before with
  | zero => rfl
  | succ limit ih =>
    rcases hwork.goesOn_or_ends autoResume with ⟨next, hgoes⟩ | hends
    · obtain ⟨outcome, front, -, hfront, hrun⟩ := hgoes.run
      rw [hrun, RunResult.behind, observations_append, hfront, ih hgoes.work,
        rounds_of_onward hgoes.onward]
      rfl
    · obtain ⟨front, hfront, hrun⟩ := hends.run
      rw [hrun, rounds_of_no_onward hends.onward]
      exact hfront

/-- **A run that ends before its limit does not depend on it**, and its script is not running any
more. -/
theorem runTicks_of_length_lt (hwork : h.AtWork)
    (hlt : (h.rounds autoResume limit).length < limit) {greater : Nat} (hle : limit ≤ greater)
    (before : StepOutcome) :
    h.runTicks autoResume greater before = h.runTicks autoResume limit before ∧
      (h.runTicks autoResume limit before).result ≠ .ok .running := by
  induction limit generalizing h before greater with
  | zero => exact absurd hlt (Nat.not_lt_zero _)
  | succ limit ih =>
    obtain ⟨greater, rfl⟩ := Nat.exists_eq_add_one_of_ne_zero (Nat.ne_zero_of_lt hle)
    rcases hwork.goesOn_or_ends autoResume with ⟨next, hgoes⟩ | hends
    · obtain ⟨outcome, front, -, -, hrun⟩ := hgoes.run
      rw [rounds_of_onward hgoes.onward, List.length_cons] at hlt
      obtain ⟨hsame, hresult⟩ := ih hgoes.work (Nat.lt_of_succ_lt_succ hlt)
        (Nat.le_of_succ_le_succ hle) outcome
      rw [hrun, hrun, hsame]
      exact ⟨rfl, hresult⟩
    · obtain ⟨front, -, hrun⟩ := hends.run
      rw [hrun, hrun]
      exact ⟨rfl, hends.answer⟩

end AtWork

/-! ## From the start of the script on -/

variable {script : Script}

/-- The host in whose primary context the script is started. -/
def launched (h : Host κ) (script : Script) : Host κ :=
  (h.onPrimary (Action.start script .core)).state

omit [Handlers κ] [CoreHandlers κ] in
theorem start_of_enabled (hon : h.primary.enabled = true) (script : Script) :
    (h.onPrimary (Action.start script .core)).answer = .ok () := by
  simp only [onPrimary, Action.start, primaryMachine, hon, if_true]

omit [Handlers κ] [CoreHandlers κ] in
theorem atWork_launched (hon : h.primary.enabled = true) (script : Script) :
    (h.launched script).AtWork := by
  obtain ⟨hserves, hnormal⟩ := serves_of_start (start_of_enabled hon script)
  exact ⟨hserves, hnormal⟩

omit [CoreHandlers κ] in
/-- A context that is switched off refuses the script, and nothing else happens. -/
theorem runScript_of_disabled (hoff : h.primary.enabled = false) (script : Script) :
    ∃ front, observations front = [] ∧
      ∀ limit autoResume, h.runScript script limit autoResume = ⟨.error .disabled, h, front⟩ := by
  refine ⟨_, observations_logged (commandLineRecord .info "starting script"
    [("bytes", toString script.length)] ::
      (h.onPrimary (Action.start script .core)).log), fun limit autoResume ↦ ?_⟩
  have hrefused : h.onPrimary (Action.start script .core) =
      ⟨.error .disabled, h, (h.onPrimary (Action.start script .core)).log⟩ := by
    simp only [onPrimary, Action.start, primaryMachine, hoff, Bool.false_eq_true, if_false]
  rw [runScript, hrefused]

omit [CoreHandlers κ] in
/-- **A run is its ticks**: its answer is theirs, as is the host it leaves and what is seen. -/
theorem runScript_of_enabled (hon : h.primary.enabled = true) (script : Script) (limit : Nat)
    (autoResume : Bool) :
    let run := h.runScript script limit autoResume
    let ticks := (h.launched script).runTicks autoResume limit .running
    run.result.map RunSummary.outcome = ticks.result ∧ run.host = ticks.host ∧
      observations run.transcript = observations ticks.transcript := by
  unfold runScript launched
  simp only [start_of_enabled hon script]
  generalize (h.onPrimary (Action.start script .core)).state.runTicks autoResume limit .running =
    ticks
  rcases hresult : ticks.result with e | outcome <;>
    simp only [observations_append, observations_logged, List.nil_append, List.append_nil,
      and_true] <;> rfl

theorem runScript_of_length_lt
    (hlt : (observations (h.runScript script limit autoResume).transcript).length < limit)
    {greater : Nat} (hle : limit ≤ greater) :
    h.runScript script greater autoResume = h.runScript script limit autoResume := by
  cases hon : h.primary.enabled with
  | false =>
    obtain ⟨front, -, hrun⟩ := runScript_of_disabled hon script
    rw [hrun, hrun]
  | true =>
    have hwork : (h.launched script).AtWork := atWork_launched hon script
    rw [(runScript_of_enabled hon script limit autoResume).2.2, hwork.observations_runTicks,
      List.length_map] at hlt
    obtain ⟨hsame, hresult⟩ := hwork.runTicks_of_length_lt hlt hle .running
    unfold launched at hsame hresult
    unfold runScript
    simp only [start_of_enabled hon script, hsame]
    -- The limit is named in one record, which is written for a script that is still running.
    rcases hticks : ((h.onPrimary (Action.start script .core)).state.runTicks autoResume limit
      .running).result with e | outcome
    · rfl
    · have hstopped : outcome ≠ .running := fun hrunning ↦ hresult (hrunning ▸ hticks)
      simp only [if_neg hstopped]

/-- What is seen of a run: nothing if the context is switched off, and else one tick a round. -/
theorem observations_runScript (h : Host κ) (script : Script) (limit : Nat) (autoResume : Bool) :
    observations (h.runScript script limit autoResume).transcript =
      if h.primary.enabled then ((h.launched script).rounds autoResume limit).map sight
      else [] := by
  cases hon : h.primary.enabled with
  | false =>
    obtain ⟨front, hfront, hrun⟩ := runScript_of_disabled hon script
    rw [hrun]
    exact hfront
  | true =>
    rw [(runScript_of_enabled hon script limit autoResume).2.2]
    exact (atWork_launched hon script).observations_runTicks autoResume limit .running

end Host

variable [CommandSet κ] [Handlers κ] [CoreHandlers κ]

/-- **A run extends with its limits.** With a greater limit of ticks the same ticks are seen first;
and if the run made fewer ticks than it might, nothing changes at all: the same ticks are seen, and
the answer and the host left behind are the same. A run that resumes its script sees first what a
run sees that does not. -/
theorem run_extends_with_limits (h : Host κ) (script : Script) :
    (∀ (autoResume : Bool) (limit greater : Nat), limit ≤ greater →
      let run := h.runScript script limit autoResume
      let longer := h.runScript script greater autoResume
      observations run.transcript <+: observations longer.transcript ∧
        ((observations run.transcript).length < limit → longer = run)) ∧
    ∀ limit, observations (h.runScript script limit false).transcript <+:
      observations (h.runScript script limit true).transcript := by
  refine ⟨fun autoResume limit greater hle ↦ ⟨?_, fun hlt ↦ ?_⟩, fun limit ↦ ?_⟩
  · rw [h.observations_runScript, h.observations_runScript]
    split
    · exact (Host.rounds_prefix hle _).map _
    · exact List.prefix_refl []
  · exact Host.runScript_of_length_lt hlt hle
  · rw [h.observations_runScript, h.observations_runScript]
    split
    · exact (Host.rounds_unresumed_prefix limit _).map _
    · exact List.prefix_refl []

/-- The script waits in its second tick, where a limit of two ends the run; resumed, it ends in the
fourth, and any limit above four makes the same run. A run that does not resume it sees the first
two. -/
theorem run_extends_with_limits_suspending :
    let run (limit : Nat) (autoResume : Bool) :=
      (Host.new {} : Host Opcode).runScript intermittentScript limit autoResume
    let answers (limit : Nat) (autoResume : Bool) :=
      (observations (run limit autoResume).transcript).map (·.report.primary)
    answers 2 true = [.ok .running, .ok .suspended] ∧
      answers 7 true = [.ok .running, .ok .suspended, .ok .running, .ok .halted] ∧
      observations (run 2 true).transcript <+: observations (run 7 true).transcript ∧
      run 50 true = run 7 true ∧
      answers 7 false = [.ok .running, .ok .suspended] ∧
      observations (run 7 false).transcript <+: observations (run 7 true).transcript := by
  intro run answers
  obtain ⟨hlimits, hresumes⟩ :=
    run_extends_with_limits (Host.new {} : Host Opcode) intermittentScript
  have hlt : (observations (run 7 true).transcript).length < 7 := by
    have hfour : (observations (run 7 true).transcript).length = 4 := rfl
    omega
  exact ⟨rfl, rfl, (hlimits true 2 7 (by decide)).1, (hlimits true 7 50 (by decide)).2 hlt, rfl,
    hresumes 7⟩

end EventScript
