import EventScript.Config
import EventScript.Proofs.Batching
import EventScript.Proofs.Frame

/-!
# The kill switch

A context that is switched off does nothing, and this file says how soon that takes effect. Between
steps it is at once: whatever the host does, nothing is dispatched and no native task is asked until
the context is switched on again. Inside a step it is not. A step looks at the switch before its
first dispatch unit and not again, so when a command switches the context off, the rest of the batch
still runs.

## The account of a step

To say what is done while the switch is off, a step is given an account: the list of its deeds, each
with the machine as it was right before. The account follows the course of the step and is complete:
the opcodes that the context reports as dispatched are those of its deeds.
-/

namespace EventScript

variable {κ α : Type}

/-- Something that a step does, with the machine as it is right before. -/
inductive Deed (κ : Type) where
  /-- A dispatch unit is made. -/
  | unit (m : Machine κ)
  /-- The native task is asked. -/
  | poll (m : Machine κ)

/-- The machine right before the deed. -/
def Deed.machine : Deed κ → Machine κ
  | unit m | poll m => m

/-! ## The account -/

namespace Machine

variable [Handlers κ]

/-- The machines on which a batch of up to `budget` units makes them. -/
def units : (budget : Nat) → Machine κ → List (Machine κ)
  | 0, _ => []
  | budget + 1, m =>
    let reply := Action.dispatch.run m
    match reply.result, reply.machine.mode with
    | .ok .running, .normal => m :: units budget reply.machine
    | _, _ => [m]

/-- What a step of up to `budget` units does. -/
def deeds (budget : Nat) (m : Machine κ) : List (Deed κ) :=
  if m.enabled then
    match m.activity with
    | .paused => []
    | .native _ => [.poll m]
    | .script _ => (m.units budget).map .unit
  else []

variable {m : Machine κ}

theorem units_of_more (h : (Action.dispatch.run m).result = .ok .running)
    (hmode : (Action.dispatch.run m).machine.mode = .normal) (budget : Nat) :
    m.units (budget + 1) = m :: (Action.dispatch.run m).machine.units budget := by
  simp only [units, h, hmode]

theorem units_of_last
    (h : ¬((Action.dispatch.run m).result = .ok .running ∧
      (Action.dispatch.run m).machine.mode = .normal)) (budget : Nat) :
    m.units (budget + 1) = [m] := by
  rw [units]
  split
  · exact absurd ⟨‹_›, ‹_›⟩ h
  · rfl

theorem length_units_le (budget : Nat) (m : Machine κ) : (m.units budget).length ≤ budget := by
  induction budget generalizing m with
  | zero => exact Nat.le_refl 0
  | succ budget ih =>
    by_cases hmore : (Action.dispatch.run m).result = .ok .running ∧
        (Action.dispatch.run m).machine.mode = .normal
    · rw [units_of_more hmore.1 hmore.2, List.length_cons]
      exact Nat.succ_le_succ (ih _)
    · rw [units_of_last hmore, List.length_singleton]
      exact Nat.succ_le_succ (Nat.zero_le budget)

theorem head?_units (budget : Nat) (m : Machine κ) : (m.units (budget + 1)).head? = some m := by
  by_cases hmore : (Action.dispatch.run m).result = .ok .running ∧
      (Action.dispatch.run m).machine.mode = .normal
  · rw [units_of_more hmore.1 hmore.2, List.head?_cons]
  · rw [units_of_last hmore, List.head?_cons]

theorem deeds_of_disabled (h : m.enabled = false) (budget : Nat) : m.deeds budget = [] := by
  simp [deeds, h]

theorem deeds_of_paused (h : m.activity = .paused) (budget : Nat) : m.deeds budget = [] := by
  simp [deeds, h]

theorem deeds_of_native {task : NativeTask} (henabled : m.enabled = true)
    (h : m.activity = .native task) (budget : Nat) : m.deeds budget = [.poll m] := by
  simp [deeds, henabled, h]

theorem deeds_of_script {c : Cursor} (henabled : m.enabled = true) (h : m.activity = .script c)
    (budget : Nat) : m.deeds budget = (m.units budget).map .unit := by
  simp [deeds, henabled, h]

end Machine

/-! ## The account is complete

What a context reports as dispatched is what the account says. No operation that a command may ask
for reports a dispatch, so the reports come from the dispatch units alone. -/

/-- The event reports that an opcode is handed to its command. -/
def Event.isDispatch : Event → Bool
  | dispatched .. => true
  | _ => false

/-- The report of a deed: an opcode that has a command is dispatched. -/
def Deed.report? : Deed κ → Option Event
  | poll _ => none
  | unit m => do
    let cursor ← m.position?
    let opcode ← cursor.rest.head?
    match m.table.lookup opcode with
    | .ok _ => some (.dispatched opcode cursor.offset m.table.name)
    | .error _ => none

/-- The dispatches among the events of a reply. -/
def Reply.dispatches (reply : Reply κ α) : List Event := reply.events.filter Event.isDispatch

theorem Request.dispatches_eq_nil (r : Request κ) (m : Machine κ) :
    (r.perform.run m).dispatches = [] := by
  unfold Reply.dispatches
  cases r with
  | start script table =>
    simp only [perform, Action.start]
    split
    · split <;> rfl
    · rfl
  | startNative task =>
    simp only [perform, Action.startNative]
    split <;> rfl
  | resume =>
    simp only [perform, Action.resume]
    split
    · rfl
    · split <;> rfl
  | call target =>
    simp only [perform, Action.call]
    split
    · split <;> rfl
    · rfl
  | ret =>
    simp only [perform, Action.ret]
    split <;> rfl
  | jump target =>
    simp only [perform, Action.jump]
    split <;> rfl
  | readU8 | readU16 | readU32 =>
    simp only [perform, Action.readU8, Action.readU16, Action.readU32, Action.readWith]
    split
    · split <;> rfl
    · rfl
  | readTarget =>
    simp only [perform, Action.readTarget]
    split
    · split <;> rfl
    · rfl
  | readBank bank =>
    simp only [perform, Action.readBank]
    split <;> rfl
  | writeBank bank value =>
    simp only [perform, Action.writeBank]
    split <;> rfl
  | writeTemporary id value =>
    simp only [perform, Action.writeTemporary]
    split <;> rfl
  | _ => rfl

theorem Program.dispatches_eq_nil (p : Program κ α) (m : Machine κ) :
    (p.perform.run m).dispatches = [] := by
  induction p generalizing m with
  | done a => rfl
  | fail e => rfl
  | ask request next ih =>
    have hfirst := request.dispatches_eq_nil m
    rw [Reply.dispatches] at hfirst
    rw [run_perform_ask, Reply.dispatches, List.filter_append, hfirst]
    exact ih _ _

namespace Action

open Machine

theorem dispatches_heeding {a : Action κ Verdict} {m : Machine κ}
    (h : (a.run m).dispatches = []) : ((heeding a).run m).dispatches = [] := by
  have hpark : ∀ n : Machine κ, (park.run n).dispatches = [] := by
    intro n
    rw [park, Reply.dispatches]
    dsimp only
    split <;> rfl
  rcases hresult : (a.run m).result with e | _ | _
  · rw [run_heeding_of_error hresult]
    exact h
  · rw [run_heeding_of_proceed hresult]
    exact h
  · rw [run_heeding_of_suspend hresult, Reply.dispatches, List.filter_append]
    exact List.append_eq_nil_iff.mpr ⟨h, hpark _⟩

variable [CommandSet κ]

theorem dispatches_dispatch (m : Machine κ) (c : Cursor) :
    (dispatch.run (m.movedTo c)).dispatches = (Deed.unit (m.movedTo c)).report?.toList := by
  have hreport : (Deed.unit (m.movedTo c)).report? = c.rest.head?.bind fun opcode ↦
      match m.table.lookup opcode with
      | .ok _ => some (.dispatched opcode c.offset m.table.name)
      | .error _ => none := rfl
  rcases hrest : c.rest with _ | ⟨opcode, back⟩
  · rw [run_dispatch_of_atEnd hrest, hreport, hrest]
    rfl
  · rcases hlookup : m.table.lookup opcode with kind | command
    · rw [run_dispatch_of_error hrest hlookup, hreport, hrest, List.head?_cons, Option.bind_some,
        hlookup]
      rfl
    · have hsilent : ((heeding (Handlers.handle command)).run
          (m.movedTo (c.advance 1))).dispatches = [] :=
        dispatches_heeding ((CommandSet.routine command).dispatches_eq_nil _)
      rw [run_dispatch_of_command hrest hlookup, hreport, hrest, List.head?_cons, Option.bind_some,
        hlookup, Reply.dispatches, List.filter_cons_of_pos rfl, ← Reply.dispatches, hsilent]
      rfl

theorem dispatches_dispatchUpTo {m : Machine κ} (hmode : m.mode = .normal) (budget : Nat) :
    ((dispatchUpTo budget).run m).dispatches =
      (m.units budget).filterMap fun n ↦ (Deed.unit n).report? := by
  rw [dispatchUpTo_eq_whileRunning]
  induction budget generalizing m with
  | zero => rfl
  | succ budget ih =>
    have hunit : (dispatch.run m).dispatches = (Deed.unit m).report?.toList := by
      obtain ⟨c, hc⟩ := exists_eq_movedTo_of_mode hmode
      rw [hc]
      exact dispatches_dispatch m c
    have hlast : [m].filterMap (fun n ↦ (Deed.unit n).report?) = (Deed.unit m).report?.toList := by
      cases hreport : (Deed.unit m).report? <;> simp [hreport]
    by_cases hmore : (dispatch.run m).result = .ok .running ∧
        (dispatch.run m).machine.mode = .normal
    · rw [run_whileRunning_of_more hmore.1 hmore.2, units_of_more hmore.1 hmore.2,
        ← List.singleton_append, List.filterMap_append, hlast, Reply.dispatches,
        List.filter_append, ← hunit]
      exact congrArg _ (ih hmore.2)
    · rw [run_whileRunning_of_no_more hmore, units_of_last hmore, hlast, hunit]

/-- **The account is complete**: a step reports the dispatches of its deeds, and no others. -/
theorem dispatches_stepUpTo (budget : Nat) (m : Machine κ) :
    ((stepUpTo budget).run m).dispatches = (m.deeds budget).filterMap Deed.report? := by
  rcases henabled : m.enabled with _ | _
  · rw [run_stepUpTo_of_disabled henabled, deeds_of_disabled henabled]
    rfl
  rcases hactivity : m.activity with _ | c | task
  · rw [run_stepUpTo_of_paused hactivity, deeds_of_paused hactivity]
    rfl
  · have hmode : m.mode = .normal := by rw [Context.mode, hactivity]; rfl
    have hbatch := dispatches_dispatchUpTo hmode budget
    rw [deeds_of_script henabled hactivity, List.filterMap_map, ← movedTo_of_activity hactivity,
      run_stepUpTo_of_script henabled, movedTo_of_activity hactivity]
    rcases hresult : ((dispatchUpTo budget).run m).result with e | outcome
    · -- The report of the fault comes behind those of the units.
      rw [run_catching_of_error hresult, Reply.dispatches, List.filter_append,
        List.filter_cons_of_neg (by simp [Event.isDispatch]), List.filter_nil, List.append_nil]
      exact hbatch
    · rw [run_catching_of_ok hresult]
      exact hbatch
  · rw [run_stepUpTo_of_native henabled hactivity, deeds_of_native henabled hactivity, pollNative]
    split <;> rfl

end Action

/-! ## While the switch is off -/

/-- Something that a host does to a context. -/
inductive Operation (κ : Type) where
  | request (r : Request κ)
  | step
  | stepOnce

theorem Request.eq_setEnabled_of_touched {r : Request κ} (h : .enabled ∈ r.touched) :
    ∃ enabled, r = .setEnabled enabled := by
  cases r with
  | setEnabled enabled => exact ⟨enabled, rfl⟩
  | _ => simp [touched] at h

theorem Request.preserves_off {r : Request κ} (hr : r ≠ .setEnabled true) :
    Action.Preserves (fun m : Machine κ ↦ m.enabled = false) r.perform := by
  intro m hm
  by_cases htouched : .enabled ∈ r.touched
  · obtain ⟨enabled, rfl⟩ := eq_setEnabled_of_touched htouched
    rcases enabled with _ | _
    · rfl
    · exact absurd rfl hr
  · have hsame : (r.perform.run m).machine.enabled = m.enabled := agreeIn htouched m
    rw [hsame]
    exact hm

section operations

variable [Handlers κ]

namespace Operation

/-- The machine after an operation. -/
def after (m : Machine κ) : Operation κ → Machine κ
  | request r => (r.perform.run m).machine
  | step => (Action.step.run m).machine
  | stepOnce => (Action.stepOnce.run m).machine

/-- What is done in the course of an operation. Requests are granted or refused on the spot. -/
def deeds (m : Machine κ) : Operation κ → List (Deed κ)
  | request _ => []
  | step => m.deeds m.stride
  | stepOnce => m.deeds 1

variable {m : Machine κ}

theorem deeds_eq_nil (h : m.enabled = false) (operation : Operation κ) :
    operation.deeds m = [] := by
  cases operation with
  | request r => rfl
  | step => exact Machine.deeds_of_disabled h _
  | stepOnce => exact Machine.deeds_of_disabled h _

/-- It stays switched off as well, since no command gets a chance to switch it on. -/
theorem enabled_after (h : m.enabled = false) {operation : Operation κ}
    (hop : operation ≠ .request (.setEnabled true)) : (operation.after m).enabled = false := by
  cases operation with
  | request r =>
    refine Request.preserves_off (fun hr ↦ hop ?_) m h
    rw [hr]
  | step =>
    rw [after, Action.run_step, Action.run_stepUpTo_of_disabled h]
    exact h
  | stepOnce =>
    rw [after, Action.stepOnce, Action.run_stepUpTo_of_disabled h]
    exact h

end Operation

namespace Machine

/-- The machine after a sequence of operations. -/
def through (m : Machine κ) (operations : List (Operation κ)) : Machine κ :=
  operations.foldl Operation.after m

/-- All that is done in the course of a sequence of operations. -/
def history (m : Machine κ) : List (Operation κ) → List (Deed κ)
  | [] => []
  | operation :: others => operation.deeds m ++ (operation.after m).history others

/-- **Off is off between steps.** As long as the host does not switch the context on, nothing is
done. -/
theorem history_eq_nil {m : Machine κ} (h : m.enabled = false) {operations : List (Operation κ)}
    (hoperations : ∀ operation ∈ operations, operation ≠ .request (.setEnabled true)) :
    m.history operations = [] ∧ (m.through operations).enabled = false := by
  induction operations generalizing m with
  | nil => exact ⟨rfl, h⟩
  | cons operation others ih =>
    obtain ⟨hop, hothers⟩ := List.forall_mem_cons.mp hoperations
    rw [history, Operation.deeds_eq_nil h, List.nil_append]
    exact ih (Operation.enabled_after h hop) hothers

/-! ## Inside a step -/

/-- What a step does with the switch off is a later unit of a batch that began with the switch
on. -/
theorem later_unit_of_off {m : Machine κ} {budget i : Nat} {deed : Deed κ}
    (h : (m.deeds budget)[i]? = some deed) (hoff : deed.machine.enabled = false) :
    m.enabled = true ∧ 0 < i ∧ i < budget ∧ ∃ n, deed = .unit n := by
  rcases henabled : m.enabled with _ | _
  · rw [deeds_of_disabled henabled] at h
    cases h
  refine ⟨rfl, ?_⟩
  rcases hactivity : m.activity with _ | c | task
  · rw [deeds_of_paused hactivity] at h
    cases h
  · rw [deeds_of_script henabled hactivity, List.getElem?_map] at h
    obtain ⟨n, hn, rfl⟩ := Option.map_eq_some_iff.mp h
    have hlt : i < (m.units budget).length := (List.getElem?_eq_some_iff.mp hn).1
    have hbudget : i < budget := Nat.lt_of_lt_of_le hlt (length_units_le budget m)
    refine ⟨Nat.pos_of_ne_zero ?_, hbudget, n, rfl⟩
    -- The first unit is made on the machine that the step found, and that is switched on.
    rintro rfl
    obtain ⟨rest, rfl⟩ := Nat.exists_eq_add_of_lt hbudget
    rw [Nat.zero_add, ← List.head?_eq_getElem?, head?_units] at hn
    cases hn
    rw [Deed.machine, henabled] at hoff
    cases hoff
  · rw [deeds_of_native henabled hactivity] at h
    rw [List.mem_singleton.mp (List.mem_of_getElem? h), Deed.machine, henabled] at hoff
    cases hoff

end Machine

end operations

/-- **How soon the kill switch takes effect.** Between steps it does at once: nothing is dispatched
and no native task is asked until the context is switched on. Inside a step it does as well, except
in one place: a batch goes on with units after the first. The dispatches that a context reports are
those accounted for. -/
theorem switch_off_effect [CommandSet κ] :
    (∀ (m : Machine κ) (operations : List (Operation κ)), m.enabled = false →
      (∀ operation ∈ operations, operation ≠ .request (.setEnabled true)) →
        m.history operations = [] ∧ (m.through operations).enabled = false) ∧
    (∀ (m : Machine κ) (operation : Operation κ) (i : Nat) (deed : Deed κ),
      (operation.deeds m)[i]? = some deed → deed.machine.enabled = false →
        operation = .step ∧ m.policy = .untilSuspend ∧ m.enabled = true ∧ 0 < i ∧ i < m.budget ∧
          ∃ n, deed = .unit n) ∧
    (∀ (m : Machine κ) (budget : Nat),
      ((Action.stepUpTo budget).run m).dispatches = (m.deeds budget).filterMap Deed.report?) := by
  refine ⟨fun m operations h ↦ Machine.history_eq_nil h, ?_, fun m budget ↦ ?_⟩
  · intro m operation i deed hdeed hoff
    cases operation with
    | request r => cases hdeed
    | step =>
      obtain ⟨henabled, hpos, hlt, hunit⟩ := Machine.later_unit_of_off hdeed hoff
      rcases hpolicy : m.policy with _ | _
      · rw [Context.stride, hpolicy] at hlt
        exact absurd hpos (Nat.not_lt.mpr (Nat.le_of_lt_succ hlt))
      · rw [Context.stride, hpolicy] at hlt
        exact ⟨rfl, rfl, henabled, hpos, hlt, hunit⟩
    | stepOnce =>
      obtain ⟨-, hpos, hlt, -⟩ := Machine.later_unit_of_off hdeed hoff
      exact absurd hpos (Nat.not_lt.mpr (Nat.le_of_lt_succ hlt))
  · exact Action.dispatches_stepUpTo budget m

/-! ## A batch that goes on -/

/-- The core commands, and one that switches the context off. -/
inductive SwitchCommand where
  | core (op : Opcode)
  | switchOff

/-- What these commands do. -/
def SwitchCommand.routine : SwitchCommand → Program SwitchCommand Verdict
  | core op => Command.core op
  | switchOff => do
    Program.send (.setEnabled false)
    return .proceed

instance : CommandSet SwitchCommand where
  core := .core
  routine := SwitchCommand.routine
  routine_core := fun _ ↦ rfl

/-- The core table with the switch behind it. -/
def switchTable : CommandTable SwitchCommand :=
  (CommandTable.derive "switch" .core).register 0x12 .switchOff

/-- A script that switches its context off and then loads a bank, started with a budget. -/
def switchedOff : Machine SwitchCommand :=
  (Action.run (.start (.ofBytes 0 [0x12, 0x07, 0x00, 0x05, 0x00, 0x00, 0x00]) switchTable)
    { Context.ofConfig "primary" { policy := .untilSuspend } with }).machine

/-- The bank is loaded although the context is switched off by then: the load is dispatched, and its
unit is made on a machine that is off. -/
theorem switch_off_ignored_in_batch :
    (Action.step.run switchedOff).events =
        [.dispatched 0x12 0 "switch", .dispatched 0x07 1 "switch", .reachedEnd 7] ∧
      (Action.step.run switchedOff).machine.banks = #v[5, 0, 0, 0] ∧
      ¬∀ deed ∈ switchedOff.deeds switchedOff.stride, deed.machine.enabled = true := by
  refine ⟨rfl, rfl, fun h ↦ ?_⟩
  have hsecond : ∃ n, (switchedOff.deeds switchedOff.stride)[1]? = some n ∧
      n.machine.enabled = false := ⟨_, rfl, rfl⟩
  obtain ⟨n, hn, hoff⟩ := hsecond
  rw [h n (List.mem_of_getElem? hn)] at hoff
  cases hoff

/-- Switched off between its two instructions, the script stays where it is, and the unit that the
batch makes in spite of that is its second one. -/
theorem switch_off_effect_midway :
    (Action.stepOnce.run switchedOff).machine.enabled = false ∧
      (Action.stepOnce.run switchedOff).machine.mode = .normal ∧
      (Action.stepOnce.run switchedOff).machine.history
        [.step, .request .resume, .request (.setPolicy .singleInstruction), .stepOnce] = [] ∧
      ∃ deed, (Operation.step.deeds switchedOff)[1]? = some deed ∧
        deed.machine.enabled = false ∧ 1 < switchedOff.budget := by
  have hoperations : ∀ operation ∈ ([.step, .request .resume,
      .request (.setPolicy .singleInstruction), .stepOnce] : List (Operation SwitchCommand)),
      operation ≠ .request (.setEnabled true) := by simp
  obtain ⟨hrest, hbatch, -⟩ := switch_off_effect (κ := SwitchCommand)
  have hsecond : ∃ deed, (Operation.step.deeds switchedOff)[1]? = some deed ∧
      deed.machine.enabled = false := ⟨_, rfl, rfl⟩
  obtain ⟨deed, hdeed, hoff⟩ := hsecond
  obtain ⟨-, -, -, -, hbudget, -⟩ := hbatch switchedOff .step 1 deed hdeed hoff
  exact ⟨rfl, rfl, (hrest _ _ rfl hoperations).1, deed, hdeed, hoff, hbudget⟩

end EventScript
