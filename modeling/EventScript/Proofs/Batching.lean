import EventScript.Proofs.CoreCommands

/-!
# Steps and dispatch units

The policy of a context says how many dispatch units a step makes, and nothing else. This file makes
that precise in two ways. A step of `b` units is what a host gets by making dispatch units one at a
time, up to `b` of them and none after the first that ends or leaves normal mode. And a script that
comes to its end on step `n` when every step makes one unit comes to the same end on step `⌈n/b⌉`
when a step makes up to `b`.

## The kill switch

A step looks at the kill switch once, before its first unit, while single units look at it each
time. The two agree as long as no command of the run touches the switch. Commands may bind other
tables in the middle of a step, so this is asked of a family of tables that the run cannot leave.
-/

namespace EventScript

variable {κ : Type}

namespace Action

/-- An action repeated up to `count` times, as long as it answers that there is more to do and the
machine is in normal mode. The answer is that of the last time. -/
def whileRunning (a : Action κ StepOutcome) : (count : Nat) → Action κ StepOutcome
  | 0 => return .running
  | count + 1 => do
    let outcome ← a
    let m ← machine
    if outcome = .running ∧ m.mode = .normal then
      whileRunning a count
    else
      return outcome

section whileRunning

variable {a : Action κ StepOutcome} {m : Machine κ}

theorem run_whileRunning_of_error {e : Fault} (h : (a.run m).result = .error e) (count : Nat) :
    (whileRunning a (count + 1)).run m = a.run m := by
  rw [whileRunning, run_bind_of_error h, ← h]

theorem run_whileRunning_of_more (h : (a.run m).result = .ok .running)
    (hmode : (a.run m).machine.mode = .normal) (count : Nat) :
    (whileRunning a (count + 1)).run m =
      { (whileRunning a count).run (a.run m).machine with
        events := (a.run m).events ++ ((whileRunning a count).run (a.run m).machine).events } := by
  rw [whileRunning, run_bind_of_ok h]
  simp only [run_bind, run_machine, hmode, and_self, if_true, List.nil_append]

theorem run_whileRunning_of_last {outcome : StepOutcome} (h : (a.run m).result = .ok outcome)
    (hlast : ¬(outcome = .running ∧ (a.run m).machine.mode = .normal)) (count : Nat) :
    (whileRunning a (count + 1)).run m = a.run m := by
  rw [whileRunning, run_bind_of_ok h]
  simp only [run_bind, run_machine, hlast, if_false, run_pure, List.append_nil, ← h]

theorem run_whileRunning_of_no_more
    (h : ¬((a.run m).result = .ok .running ∧ (a.run m).machine.mode = .normal)) (count : Nat) :
    (whileRunning a (count + 1)).run m = a.run m := by
  rcases hresult : (a.run m).result with e | outcome
  · exact run_whileRunning_of_error hresult count
  · refine run_whileRunning_of_last hresult ?_ count
    rintro ⟨rfl, hmode⟩
    exact h ⟨hresult, hmode⟩

theorem run_whileRunning_one (a : Action κ StepOutcome) (m : Machine κ) :
    (whileRunning a 1).run m = a.run m := by
  cases hresult : (a.run m).result with
  | error e => exact run_whileRunning_of_error hresult 0
  | ok outcome =>
    by_cases hmore : outcome = .running ∧ (a.run m).machine.mode = .normal
    · obtain ⟨rfl, hmode⟩ := hmore
      rw [run_whileRunning_of_more hresult hmode]
      simp only [whileRunning, run_pure, List.append_nil, ← hresult]
    · exact run_whileRunning_of_last hresult hmore 0

/-- Faults may be caught each time or once around the repetition. -/
theorem whileRunning_catching (a : Action κ StepOutcome) (count : Nat) :
    whileRunning (catching a) count = catching (whileRunning a count) := by
  induction count with
  | zero => rfl
  | succ count ih =>
    ext m
    cases hresult : (a.run m).result with
    | error e =>
      have hcaught : ((catching a).run m).result = .error e := by
        rw [run_catching_of_error hresult]
      have hwhole := run_whileRunning_of_error hresult count
      rw [run_whileRunning_of_error hcaught, run_catching_of_error hresult,
        run_catching_of_error (by rw [hwhole]; exact hresult), hwhole]
    | ok outcome =>
      have hcaught := run_catching_of_ok hresult
      by_cases hmore : outcome = .running ∧ (a.run m).machine.mode = .normal
      · obtain ⟨rfl, hmode⟩ := hmore
        have hwhole := run_whileRunning_of_more hresult hmode count
        rw [run_whileRunning_of_more (by rw [hcaught]; exact hresult)
          (by rw [hcaught]; exact hmode), hcaught, ih]
        -- The rest may fail in its turn; the two sides then differ in where the report is appended.
        cases hrest : ((whileRunning a count).run (a.run m).machine).result with
        | ok last =>
          rw [run_catching_of_ok hrest, run_catching_of_ok (by rw [hwhole]; exact hrest), hwhole]
        | error e =>
          rw [run_catching_of_error hrest, run_catching_of_error (by rw [hwhole]; exact hrest),
            hwhole, List.append_assoc]
      · have hwhole := run_whileRunning_of_last hresult hmore count
        rw [run_whileRunning_of_last (by rw [hcaught]; exact hresult)
          (by rw [hcaught]; exact hmore), hcaught,
          run_catching_of_ok (by rw [hwhole]; exact hresult), hwhole]

/-- Actions that agree in normal mode wherever an invariant holds agree when repeated there. -/
theorem run_whileRunning_congr {P : Machine κ → Prop} {b : Action κ StepOutcome}
    (hP : Preserves P a) (hab : ∀ n, P n → n.mode = .normal → a.run n = b.run n) (hm : P m)
    (hmode : m.mode = .normal) (count : Nat) :
    (whileRunning a count).run m = (whileRunning b count).run m := by
  induction count generalizing m with
  | zero => rfl
  | succ count ih =>
    have hagree := hab m hm hmode
    -- The invariant and the mode are known of the machine that `a` leaves, which is that of `b`.
    cases hresult : (a.run m).result with
    | error e =>
      rw [run_whileRunning_of_error hresult, hagree, run_whileRunning_of_error (hagree ▸ hresult)]
    | ok outcome =>
      by_cases hmore : outcome = .running ∧ (a.run m).machine.mode = .normal
      · obtain ⟨rfl, hnext⟩ := hmore
        rw [run_whileRunning_of_more hresult hnext, ih (hP m hm) hnext, hagree,
          run_whileRunning_of_more (hagree ▸ hresult) (hagree ▸ hnext)]
      · rw [run_whileRunning_of_last hresult hmore, hagree,
          run_whileRunning_of_last (hagree ▸ hresult) (hagree ▸ hmore)]

end whileRunning

/-! ## One step is many units -/

/-- The machine is switched on, under a table of the family. -/
def OnUnder (family : CommandTable κ → Prop) (m : Machine κ) : Prop :=
  m.enabled = true ∧ family m.table

theorem stableUnderStep_onUnder (family : CommandTable κ → Prop) :
    StableUnderStep (OnUnder family) where
  fetch := by
    intro m hm
    unfold readU8 readWith
    dsimp only
    split
    · split <;> exact hm
    · exact hm
  park := by
    intro m hm
    unfold park
    dsimp only
    split <;> exact hm
  stop := fun _ hm ↦ hm
  fault := fun _ _ hm ↦ hm
  poll := by
    intro task m _ hm
    unfold pollNative
    split <;> exact hm

variable [Handlers κ]

theorem dispatchUpTo_eq_whileRunning (budget : Nat) :
    (dispatchUpTo budget : Action κ StepOutcome) = whileRunning dispatch budget := by
  induction budget with
  | zero => rfl
  | succ budget ih => rw [dispatchUpTo, whileRunning, ih]

theorem run_stepUpTo_eq_whileRunning {m : Machine κ} (henabled : m.enabled = true)
    (hmode : m.mode = .normal) (budget : Nat) :
    (stepUpTo budget).run m = (whileRunning (catching dispatch) budget).run m := by
  obtain ⟨c, hc⟩ := Machine.exists_eq_movedTo_of_mode hmode
  rw [hc, run_stepUpTo_of_script henabled, dispatchUpTo_eq_whileRunning, whileRunning_catching]

theorem run_stepOnce {m : Machine κ} (henabled : m.enabled = true) (hmode : m.mode = .normal) :
    stepOnce.run m = (catching dispatch).run m := by
  rw [stepOnce, run_stepUpTo_eq_whileRunning henabled hmode, run_whileRunning_one]

/-- No command that a table of the family has touches the kill switch or binds a table outside the
family. -/
def Quiet (family : CommandTable κ → Prop) : Prop :=
  ∀ (m : Machine κ) opcode command, family m.table → m.mode = .normal →
    m.table.lookup opcode = .ok command →
    ((Handlers.handle command).run m).machine.enabled = m.enabled ∧
      family ((Handlers.handle command).run m).machine.table

theorem Quiet.commandsPreserve {family : CommandTable κ → Prop} (h : Quiet family) :
    CommandsPreserve (OnUnder family) := by
  rintro m opcode command ⟨henabled, hfamily⟩ hmode hlookup
  obtain ⟨hsame, hstays⟩ := h m opcode command hfamily hmode hlookup
  exact ⟨hsame.trans henabled, hstays⟩

/-- **A step is so many units.** The budget may be used up in one step or spent unit by unit. -/
theorem run_stepUpTo_eq_units {family : CommandTable κ → Prop} (hquiet : Quiet family)
    {m : Machine κ} (hm : OnUnder family m) (hmode : m.mode = .normal) (budget : Nat) :
    (stepUpTo budget).run m = (whileRunning stepOnce budget).run m := by
  have hP : StableUnderStep (OnUnder family) := stableUnderStep_onUnder family
  have hkeep : Preserves (OnUnder family) (catching dispatch) :=
    hP.catching (hP.dispatch hquiet.commandsPreserve)
  rw [run_stepUpTo_eq_whileRunning hm.1 hmode]
  refine run_whileRunning_congr hkeep ?_ hm hmode budget
  intro n hn hnormal
  rw [run_stepOnce hn.1 hnormal]

/-! ## Counting steps -/

/-- The action is repeated. Its first answer other than that there is more to do is the given one;
it comes the given time around and leaves the given machine. -/
inductive StopsAt (a : Action κ StepOutcome) :
    Machine κ → Nat → Except Fault StepOutcome → Machine κ → Prop where
  /-- The first time around. -/
  | now {m : Machine κ} :
    (a.run m).result ≠ .ok .running → StopsAt a m 1 (a.run m).result (a.run m).machine
  /-- After a time around on which there was more to do. -/
  | later {m last : Machine κ} {count : Nat} {result : Except Fault StepOutcome} :
    (a.run m).result = .ok .running → StopsAt a (a.run m).machine count result last →
      StopsAt a m (count + 1) result last

end Action

namespace Action

open Machine

theorem StopsAt.result_ne {a : Action κ StepOutcome} {m last : Machine κ} {count : Nat}
    {result : Except Fault StepOutcome} (h : StopsAt a m count result last) :
    result ≠ .ok .running := by
  induction h with
  | now hresult => exact hresult
  | later _ _ ih => exact ih

theorem StopsAt.count_pos {a : Action κ StepOutcome} {m last : Machine κ} {count : Nat}
    {result : Except Fault StepOutcome} (h : StopsAt a m count result last) : 1 ≤ count := by
  cases h with
  | now => exact Nat.le_refl 1
  | later => exact Nat.succ_le_succ (Nat.zero_le _)

variable [CommandSet κ] {origin m last : Machine κ} {count : Nat}
  {result : Except Fault StepOutcome}

theorem quiet_core : Quiet (fun table : CommandTable κ ↦ table = .core) := by
  intro m opcode command htable hmode hlookup
  have hm : Follows m m := ⟨.refl m, by rw [hmode]; decide⟩
  have hkeep := commandsPreserve_follows htable m opcode command hm hmode hlookup
  exact ⟨hkeep.enabled, hkeep.table.trans htable⟩

/-- A machine running a script under the core table, set up like `origin`. -/
structure RunsCore (origin m : Machine κ) : Prop extends Follows origin m where
  /-- The table is the core table. -/
  core : origin.table = .core
  /-- The machine is switched on. -/
  on : origin.enabled = true
  /-- A script is running. -/
  normal : m.mode = .normal

theorem RunsCore.next (hm : RunsCore origin m)
    (hresult : (stepOnce.run m).result = .ok .running) :
    RunsCore origin (stepOnce.run m).machine := by
  have hfollows : Follows origin (stepOnce.run m).machine :=
    (stableUnderStep_follows origin).stepUpTo (commandsPreserve_follows hm.core) 1 m hm.toFollows
  obtain ⟨c, hc⟩ := exists_eq_movedTo_of_mode hm.normal
  have hunit : stepOnce.run m = (catching dispatch).run m :=
    run_stepOnce (hm.enabled.trans hm.on) hm.normal
  -- The outcome rules out a pause, and no core command hands over to a native task.
  have hbusy : (stepOnce.run m).machine.mode ≠ .paused := by
    cases hdispatch : (dispatch.run m).result with
    | error e =>
      rw [hunit, run_catching_of_error hdispatch] at hresult
      cases hresult
    | ok outcome =>
      rw [hunit, run_catching_of_ok hdispatch] at hresult ⊢
      rw [hc] at hresult ⊢
      exact mode_ne_paused_of_dispatch hresult
  refine ⟨hfollows, hm.core, hm.on, ?_⟩
  cases hmode : (stepOnce.run m).machine.mode with
  | normal => rfl
  | paused => exact absurd hmode hbusy
  | native => exact absurd hmode hfollows.scripted

theorem RunsCore.run_changed (hm : RunsCore origin m) (policy : Policy) (budget : Nat) :
    stepOnce.run (m.changed (Context.refit id policy budget)) =
      (stepOnce.run m).changed (Context.refit id policy budget) := by
  have henabled : m.enabled = true := hm.enabled.trans hm.on
  obtain ⟨c, hc⟩ := exists_eq_movedTo_of_mode hm.normal
  have hdispatch : dispatch.run (m.changed (Context.refit id policy budget)) =
      (dispatch.run m).changed (Context.refit id policy budget) := by
    rw [hc]
    exact run_dispatch_changed c (hm.table.trans hm.core) policy budget
  rw [run_stepOnce henabled hm.normal, run_stepOnce (by exact henabled) (by exact hm.normal)]
  cases hresult : (dispatch.run m).result with
  | ok outcome =>
    rw [run_catching_of_ok hresult, run_catching_of_ok (by rw [hdispatch]; exact hresult),
      hdispatch]
  | error e =>
    rw [run_catching_of_error hresult, run_catching_of_error (by rw [hdispatch]; exact hresult),
      hdispatch]
    rfl

theorem StopsAt.changed (h : StopsAt stepOnce m count result last) (hm : RunsCore origin m)
    (policy : Policy) (budget : Nat) :
    StopsAt stepOnce (m.changed (Context.refit id policy budget)) count result
      (last.changed (Context.refit id policy budget)) := by
  induction h with
  | now hresult =>
    have hsame := hm.run_changed policy budget
    have hnow := StopsAt.now (a := stepOnce) (by rw [hsame]; exact hresult)
    rwa [hsame] at hnow
  | later hresult _ ih =>
    have hsame := hm.run_changed policy budget
    refine .later (by rw [hsame]; exact hresult) ?_
    rw [hsame]
    exact ih (hm.next hresult)

/-- Units up to a budget: the run is over by then, or the budget is used up and so much of the run
is left. -/
theorem StopsAt.run_units (h : StopsAt stepOnce m count result last) (hm : RunsCore origin m)
    (budget : Nat) :
    (count ≤ budget ∧ ((whileRunning stepOnce budget).run m).result = result ∧
      ((whileRunning stepOnce budget).run m).machine = last) ∨
    (budget < count ∧ ((whileRunning stepOnce budget).run m).result = .ok .running ∧
      RunsCore origin ((whileRunning stepOnce budget).run m).machine ∧
      StopsAt stepOnce ((whileRunning stepOnce budget).run m).machine (count - budget) result
        last) := by
  -- Each unit takes one off the budget and one off the count.
  induction budget generalizing m count with
  | zero => exact .inr ⟨h.count_pos, rfl, hm, h⟩
  | succ budget ih =>
    cases h with
    | now hresult =>
      have hunit : (whileRunning stepOnce (budget + 1)).run m = stepOnce.run m := by
        cases hanswer : (stepOnce.run m).result with
        | error e => exact run_whileRunning_of_error hanswer budget
        | ok outcome =>
          refine run_whileRunning_of_last hanswer ?_ budget
          rintro ⟨rfl, -⟩
          exact hresult hanswer
      rw [hunit]
      exact .inl ⟨Nat.succ_le_succ (Nat.zero_le _), rfl, rfl⟩
    | later hresult hrest =>
      have hnext := hm.next hresult
      rw [run_whileRunning_of_more hresult hnext.normal]
      obtain ⟨hle, hdone⟩ | ⟨hlt, hleft⟩ := ih hrest hnext
      · exact .inl ⟨Nat.succ_le_succ hle, hdone⟩
      · refine .inr ⟨Nat.succ_lt_succ hlt, ?_⟩
        rwa [Nat.add_sub_add_right]

/-- **Counting batches.** A run of `count` units takes one step for every `budget` of them. -/
theorem StopsAt.batched {budget : Nat} (h : StopsAt stepOnce m count result last)
    (hm : RunsCore origin m) (hbudget : 1 ≤ budget)
    (hstep : ∀ n, RunsCore origin n → step.run n = (whileRunning stepOnce budget).run n) :
    StopsAt step m ((count + budget - 1) / budget) result last := by
  -- A batch takes a whole budget off the count at once.
  induction count using Nat.strongRecOn generalizing m with
  | _ count ih =>
    have hpos : 1 ≤ count := h.count_pos
    have hrun := hstep m hm
    obtain ⟨hle, hdone, hlast⟩ | ⟨hlt, hmore, hnext, hleft⟩ := h.run_units hm budget
    · have hone : (count + budget - 1) / budget = 1 := by
        rw [Nat.div_eq_iff (by omega)]
        omega
      have hnow := StopsAt.now (a := step) (by rw [hrun, hdone]; exact h.result_ne)
      rw [hone]
      rwa [hrun, hdone, hlast] at hnow
    · have hcount : (count + budget - 1) / budget =
          (count - budget + budget - 1) / budget + 1 := by
        rw [← Nat.add_div_right _ (by omega)]
        congr 1
        omega
      rw [hcount]
      refine .later (by rw [hrun]; exact hmore) ?_
      rw [hrun]
      exact ih (count - budget) (by omega) hleft hnext

theorem StopsAt.units (h : StopsAt step m count result last) (hm : RunsCore origin m)
    (hpolicy : origin.policy = .singleInstruction) : StopsAt stepOnce m count result last := by
  have hstep : ∀ {n}, RunsCore origin n → step.run n = stepOnce.run n := by
    intro n hn
    rw [run_step, Context.stride, hn.policy, hpolicy]
    rfl
  induction h with
  | now hresult =>
    rw [hstep hm] at hresult ⊢
    exact .now hresult
  | later hresult _ ih =>
    rw [hstep hm] at hresult ih
    exact .later hresult (ih (hm.next hresult))

end Action

/-- The machine under another policy and budget. -/
def Machine.retuned (m : Machine κ) (policy : Policy) (budget : Nat) : Machine κ :=
  { m with policy := policy, budget := budget }

open EventScript.Action

/-- The machine with the script about to run under the table. -/
def Machine.begun (m : Machine κ) (script : Script) (table : CommandTable κ) : Machine κ :=
  ((start script table).run m).machine

theorem Machine.begun_eq {m : Machine κ} (h : m.enabled = true) (script : Script)
    (table : CommandTable κ) :
    m.begun script table =
      { m with toContext := { m.cleared table with activity := .script script.start } } := by
  simp only [begun, start, h, if_true]

/-- The machine with the script about to run under the core table. -/
def Machine.launched [CommandSet κ] (m : Machine κ) (script : Script) : Machine κ :=
  ((start script .core).run m).machine

namespace Machine

variable [CommandSet κ] {m : Machine κ}

theorem runsCore_retuned (h : RunsCore m m) (policy : Policy) (budget : Nat) :
    RunsCore (m.retuned policy budget) (m.retuned policy budget) :=
  ⟨⟨.refl _, h.scripted⟩, h.core, h.on, h.normal⟩

variable (script : Script)

theorem launched_eq (h : m.enabled = true) :
    m.launched script =
      { m with toContext := { m.cleared .core with activity := .script script.start } } :=
  begun_eq h script .core

theorem runsCore_launched (h : m.enabled = true) :
    RunsCore (m.launched script) (m.launched script) := by
  rw [launched_eq script h]
  exact ⟨⟨.refl _, nofun⟩, rfl, h, rfl⟩

theorem launched_retuned (h : m.enabled = true) (policy : Policy) (budget : Nat) :
    (m.retuned policy budget).launched script = (m.launched script).retuned policy budget := by
  rw [launched_eq script h, launched_eq script (by exact h)]
  rfl

end Machine

/-- **The policy does not change what a script computes.** In normal mode, under tables that leave
the kill switch alone, a step with a budget is as many units made one at a time; and a script that
ends on step `n` when steps are single instructions ends the same way on step `⌈n/b⌉` when steps
have a budget of `b`. -/
theorem step_agrees_with_units :
    (∀ (κ : Type) [Handlers κ] (family : CommandTable κ → Prop) (m : Machine κ) (b : Nat),
      Quiet family → family m.table → m.enabled = true → m.mode = .normal →
        step.run (m.retuned .untilSuspend b) =
          (whileRunning stepOnce b).run (m.retuned .untilSuspend b)) ∧
    (∀ (κ : Type) [CommandSet κ] (m last : Machine κ) (script : Script) (b n : Nat)
      (result : Except Fault StepOutcome), m.enabled = true → 1 ≤ b →
        StopsAt step ((m.retuned .singleInstruction m.budget).launched script) n result last →
          StopsAt step ((m.retuned .untilSuspend b).launched script) ((n + b - 1) / b) result
            (last.retuned .untilSuspend b)) := by
  constructor
  · intro κ _ family m b hquiet hfamily henabled hmode
    rw [run_step]
    exact run_stepUpTo_eq_units hquiet (m := m.retuned .untilSuspend b) ⟨henabled, hfamily⟩ hmode b
  · intro κ _ m last script b n result henabled hb h
    -- Both runs are retunings of one launched machine, so they can be compared unit by unit.
    rw [Machine.launched_retuned script henabled] at h ⊢
    have hlaunched := Machine.runsCore_launched script henabled
    have hsingle := Machine.runsCore_retuned hlaunched .singleInstruction m.budget
    have hbatched := Machine.runsCore_retuned hlaunched .untilSuspend b
    have hunits : StopsAt stepOnce ((m.launched script).retuned .untilSuspend b) n result
        (last.retuned .untilSuspend b) := (h.units hsingle rfl).changed hsingle .untilSuspend b
    refine hunits.batched hbatched hb fun x hx ↦ ?_
    have hx' : OnUnder (fun table ↦ table = .core) x :=
      ⟨hx.enabled.trans hx.on, hx.table.trans hx.core⟩
    rw [run_step, Context.stride, hx.policy, hx.budget]
    exact run_stepUpTo_eq_units quiet_core hx' hx.normal b

/-- Two instructions and a suspension. -/
def pausingScript : Script := .ofBytes 0 [0x00, 0x00, 0x0b]

/-- A machine at an offset of the script. -/
def pausingAt (offset : Nat) : Machine Opcode :=
  (Machine.launched (.new "primary") pausingScript).movedTo ⟨pausingScript, offset⟩

/-- The script suspends on the third step under single instructions, and on the second under a
budget of two. -/
theorem step_agrees_with_units_pausing :
    step.run ((pausingAt 0).retuned .untilSuspend 2) =
        (whileRunning stepOnce 2).run ((pausingAt 0).retuned .untilSuspend 2) ∧
      StopsAt step (Machine.launched (.retuned (.new "primary") .untilSuspend 2) pausingScript) 2
        (.ok .suspended)
        (.retuned { pausingAt 2 with activity := .paused, parked := some ⟨pausingScript, 3⟩ }
          .untilSuspend 2) := by
  have hfirst : step.run (pausingAt 0) =
      ⟨.ok .running, pausingAt 1, [.dispatched 0x00 0 "core"]⟩ := rfl
  have hsecond : step.run (pausingAt 1) =
      ⟨.ok .running, pausingAt 2, [.dispatched 0x00 1 "core"]⟩ := rfl
  have hthird : step.run (pausingAt 2) =
      ⟨.ok .suspended, { pausingAt 2 with activity := .paused, parked := some ⟨pausingScript, 3⟩ },
        [.dispatched 0x0b 2 "core", .suspended 3]⟩ := rfl
  have hlast : StopsAt step (pausingAt 2) 1 (.ok .suspended)
      { pausingAt 2 with activity := .paused, parked := some ⟨pausingScript, 3⟩ } := by
    have h := StopsAt.now (a := step) (m := pausingAt 2) (by rw [hthird]; nofun)
    rwa [hthird] at h
  have hsingle : StopsAt step (pausingAt 0) 3 (.ok .suspended)
      { pausingAt 2 with activity := .paused, parked := some ⟨pausingScript, 3⟩ } := by
    refine .later (by rw [hfirst]) (.later (by rw [hfirst, hsecond]) ?_)
    rwa [hfirst, hsecond]
  exact ⟨step_agrees_with_units.1 Opcode _ (pausingAt 0) 2 quiet_core rfl rfl rfl,
    step_agrees_with_units.2 Opcode (.new "primary") _ pausingScript 2 3 _ rfl (by decide) hsingle⟩

end EventScript
