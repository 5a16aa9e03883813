import EventScript.Proofs.KillSwitch

/-!
# Elementary changes

A step may carry out a thousand commands, and a command any number of requests. Some statements
are about the moments in between: a return that is followed by further calls in the same step,
say. This file takes what is done to a machine apart into elementary changes, of which a request
is the usual one, and shows that they add up: applied in order, the changes of a step leave the
machine that the step leaves.

The changes of a step follow its account: each dispatch unit contributes the fetch of the opcode,
the requests of the command and, if the command suspends, the parking of the script.
-/

namespace EventScript

variable {κ α : Type}

/-- The least that is done to a machine at a time. -/
inductive Change (κ : Type) where
  /-- A request is carried out, for the host, for a command or to fetch an opcode. -/
  | request (r : Request κ)
  /-- The script is parked. -/
  | park
  /-- A fault ends the script. -/
  | fault (e : Fault)
  /-- The native task is asked. -/
  | poll (task : NativeTask)
  /-- The temporaries are another set now, or another context has written to them. -/
  | share (temporaries : Temporaries)

/-- The machine after a change. -/
def Change.apply (m : Machine κ) : Change κ → Machine κ
  | request r => (r.perform.run m).machine
  | park => (Action.park.run m).machine
  | fault e => m.faulted e
  | poll task => ((Action.pollNative task).run m).machine
  | share temporaries => { m with temporaries := temporaries }

/-- The machine after a sequence of changes. -/
def Machine.applied (m : Machine κ) (changes : List (Change κ)) : Machine κ :=
  changes.foldl Change.apply m

theorem Machine.applied_append (m : Machine κ) (front back : List (Change κ)) :
    m.applied (front ++ back) = (m.applied front).applied back :=
  List.foldl_append

/-! ## Commands and dispatch units -/

/-- The changes that a program makes. -/
def Program.changes : Program κ α → Machine κ → List (Change κ)
  | done _, _ | fail _, _ => []
  | ask request next, m =>
    .request request ::
      (next (request.perform.run m).result).changes (request.perform.run m).machine

theorem Program.applied_changes (p : Program κ α) (m : Machine κ) :
    m.applied (p.changes m) = (p.perform.run m).machine := by
  induction p generalizing m with
  | done a => rfl
  | fail e => rfl
  | ask request next ih => exact ih _ _

namespace Machine

open EventScript.Action

variable [CommandSet κ]

/-- The changes that a command makes whose verdict is heeded. -/
def heedingChanges (p : Routine κ) (m : Machine κ) : List (Change κ) :=
  p.changes m ++
    match (p.perform.run m).result with
    | .ok .suspend => [.park]
    | _ => []

omit [CommandSet κ] in
theorem applied_heedingChanges (p : Routine κ) (m : Machine κ) :
    m.applied (heedingChanges p m) = ((heeding p.perform).run m).machine := by
  rw [heedingChanges, applied_append, p.applied_changes]
  rcases hresult : (p.perform.run m).result with e | _ | _
  · rw [run_heeding_of_error hresult]
    rfl
  · rw [run_heeding_of_proceed hresult]
    rfl
  · rw [run_heeding_of_suspend hresult]
    rfl

/-- The changes that a dispatch unit makes. -/
def unitChanges (m : Machine κ) : List (Change κ) :=
  match m.activity with
  | .script c =>
    match c.rest with
    | [] => [.request .stop]
    | opcode :: _ =>
      .request .readU8 ::
        match m.table.lookup opcode with
        | .error _ => []
        | .ok command => heedingChanges (CommandSet.routine command) (m.movedTo (c.advance 1))
  | _ => []

theorem applied_unitChanges (m : Machine κ) :
    m.applied m.unitChanges = (dispatch.run m).machine := by
  by_cases hmode : m.mode = .normal
  · obtain ⟨c, hc⟩ := exists_eq_movedTo_of_mode hmode
    rw [hc]
    rcases hrest : c.rest with _ | ⟨opcode, back⟩
    · rw [run_dispatch_of_atEnd hrest, unitChanges, activity_movedTo]
      simp only [hrest]
      rfl
    · -- Whatever follows, it follows on the machine with the cursor behind the opcode.
      have hfetch : Change.apply (m.movedTo c) (.request .readU8) = m.movedTo (c.advance 1) := by
        change (readU8.run (m.movedTo c)).machine = _
        rw [run_readU8_of_rest hrest]
      rcases hlookup : m.table.lookup opcode with kind | command
      · rw [run_dispatch_of_error hrest hlookup, unitChanges, activity_movedTo]
        simp only [hrest, table_movedTo, hlookup]
        exact hfetch
      · rw [run_dispatch_of_command hrest hlookup, unitChanges, activity_movedTo]
        simp only [hrest, table_movedTo, hlookup]
        rw [applied, List.foldl_cons, hfetch]
        exact applied_heedingChanges _ _
  · have hnone : m.unitChanges = [] := by
      rw [unitChanges]
      split
      · exact absurd (by rw [Context.mode, ‹m.activity = _›]; rfl) hmode
      · rfl
    rw [run_dispatch_of_idle hmode, hnone]
    rfl

/-- The changes of the units of a batch add up to the batch. -/
theorem applied_flatMap_units (budget : Nat) (m : Machine κ) :
    m.applied ((m.units budget).flatMap unitChanges) = ((dispatchUpTo budget).run m).machine := by
  rw [dispatchUpTo_eq_whileRunning]
  induction budget generalizing m with
  | zero => rfl
  | succ budget ih =>
    by_cases hmore : (dispatch.run m).result = .ok .running ∧
        (dispatch.run m).machine.mode = .normal
    · rw [units_of_more hmore.1 hmore.2, List.flatMap_cons, applied_append, applied_unitChanges,
        run_whileRunning_of_more hmore.1 hmore.2]
      exact ih _
    · rw [units_of_last hmore, List.flatMap_singleton, applied_unitChanges,
        run_whileRunning_of_no_more hmore]

end Machine

/-! ## Steps -/

/-- The changes that a deed makes. -/
def Deed.changes [CommandSet κ] : Deed κ → List (Change κ)
  | unit m => m.unitChanges
  | poll m =>
    match m.activity with
    | .native task => [.poll task]
    | _ => []

namespace Machine

open EventScript.Action

variable [CommandSet κ]

/-- The changes that a step of up to `budget` units makes. -/
def stepChanges (budget : Nat) (m : Machine κ) : List (Change κ) :=
  (m.deeds budget).flatMap Deed.changes ++
    match ((stepUpTo budget).run m).result with
    | .ok _ => []
    | .error e => [.fault e]

/-- **The changes of a step add up to the step.** -/
theorem applied_stepChanges (budget : Nat) (m : Machine κ) :
    m.applied (m.stepChanges budget) = ((stepUpTo budget).run m).machine := by
  rw [stepChanges, applied_append]
  rcases henabled : m.enabled with _ | _
  · rw [deeds_of_disabled henabled, run_stepUpTo_of_disabled henabled]
    rfl
  rcases hactivity : m.activity with _ | c | task
  · rw [deeds_of_paused hactivity, run_stepUpTo_of_paused hactivity]
    rfl
  · have hbatch : m.applied ((m.deeds budget).flatMap Deed.changes) =
        ((dispatchUpTo budget).run m).machine := by
      rw [deeds_of_script henabled hactivity, List.flatMap_map]
      exact applied_flatMap_units budget m
    have hstep : (stepUpTo budget).run m = (catching (dispatchUpTo budget)).run m := by
      rw [← movedTo_of_activity hactivity]
      exact run_stepUpTo_of_script henabled budget
    rw [hbatch, hstep]
    rcases hresult : ((dispatchUpTo budget).run m).result with e | outcome
    · rw [run_catching_of_error hresult]
      rfl
    · rw [run_catching_of_ok hresult, hresult]
      rfl
  · have hpoll : ((m.deeds budget).flatMap Deed.changes) = [.poll task] := by
      rw [deeds_of_native henabled hactivity, List.flatMap_singleton, Deed.changes, hactivity]
    rw [hpoll, run_stepUpTo_of_native henabled hactivity]
    -- Asking a task never ends in a fault.
    have hok : ∃ outcome, ((pollNative task).run m).result = .ok outcome := by
      unfold pollNative
      split <;> exact ⟨_, rfl⟩
    obtain ⟨outcome, houtcome⟩ := hok
    rw [houtcome]
    rfl

end Machine

/-! ## Runs -/

/-- Something that happens to a context: its host does something to it, or the temporaries become
others. -/
inductive Turn (κ : Type) where
  | act (operation : Operation κ)
  | share (temporaries : Temporaries)

namespace Turn

variable [CommandSet κ]

/-- The machine after a turn. -/
def after (m : Machine κ) : Turn κ → Machine κ
  | act operation => operation.after m
  | share temporaries => { m with temporaries := temporaries }

/-- The changes that a turn makes. -/
def changes (m : Machine κ) : Turn κ → List (Change κ)
  | act (.request r) => [.request r]
  | act .step => m.stepChanges m.stride
  | act .stepOnce => m.stepChanges 1
  | share temporaries => [.share temporaries]

theorem applied_changes (m : Machine κ) (turn : Turn κ) :
    m.applied (turn.changes m) = turn.after m := by
  rcases turn with (r | _ | _) | temporaries
  · rfl
  · rw [changes, Machine.applied_stepChanges, after, Operation.after, Action.run_step]
  · rw [changes, Machine.applied_stepChanges, after, Operation.after, Action.stepOnce]
  · rfl

end Turn

namespace Machine

variable [CommandSet κ]

/-- The machine after a sequence of turns. -/
def afterTurns (m : Machine κ) (turns : List (Turn κ)) : Machine κ := turns.foldl Turn.after m

/-- The changes that a sequence of turns makes. -/
def changes (m : Machine κ) : List (Turn κ) → List (Change κ)
  | [] => []
  | turn :: others => turn.changes m ++ (turn.after m).changes others

/-- **The changes of a run add up to the run.** -/
theorem applied_changes (m : Machine κ) (turns : List (Turn κ)) :
    m.applied (m.changes turns) = m.afterTurns turns := by
  induction turns generalizing m with
  | nil => rfl
  | cons turn others ih =>
    rw [changes, applied_append, turn.applied_changes]
    exact ih _

end Machine

end EventScript
