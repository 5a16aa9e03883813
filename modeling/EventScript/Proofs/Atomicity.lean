import EventScript.Proofs.Reference
import EventScript.Proofs.Soundness
import EventScript.Proofs.Transparency

/-!
# Faults leave no trace

A core command may fail after it has read its operands, after the first of two variables has been
checked, or because the call stack is full, and it may do so in the middle of a step that makes a
thousand units. This file shows that a step which ends in a fault is as good as the units before the
fault: the instruction at fault has no effect of its own, and what remains is that the script is
stopped and the fault is recorded.

## The courses of a unit

`RunsCore.stepOnce_cases` says once what a unit under the core table can come to. The script is at
its end and halts, or there is a fault and the machine is as it was but for the fault, or an
instruction stands in front of the cursor, has passed its checks and takes effect. What holds of
every unit is read off these three courses.
-/

namespace EventScript

open Machine

variable {κ : Type}

/-! ## The courses of a unit -/

theorem Instruction.parked_effect {i : Instruction} (h : i.outcome = .running) (next : Cursor)
    (m : Machine κ) : (i.effect next m).parked = m.parked := by
  cases i with
  | stop | wait => cases h
  | ret =>
    rw [effect]
    split <;> rfl
  | gotoIf _ _ | callIf _ _ =>
    rw [effect]
    split <;> rfl
  | loadBank _ _ | addBank _ _ | copyBank _ _ | loadTemp _ _ =>
    rw [effect, withBank]
    split <;> rfl
  | setTemp _ _ | storeTemp _ _ =>
    rw [effect, withTemporary]
    split <;> rfl
  | _ => rfl

namespace Action.RunsCore

variable [CommandSet κ] {origin m : Machine κ} {c : Cursor} {e : Fault}

theorem self (henabled : m.enabled = true) (htable : m.table = .core) (hmode : m.mode = .normal) :
    RunsCore m m :=
  ⟨⟨.refl m, by rw [hmode]; decide⟩, htable, henabled, hmode⟩

theorem exists_activity (hm : RunsCore origin m) : ∃ c, m.activity = .script c := by
  obtain ⟨c, hc⟩ := exists_eq_movedTo_of_mode hm.normal
  exact ⟨c, by rw [hc, activity_movedTo]⟩

/-- **What a unit under the core table can come to**: the end of the script, a fault that leaves the
machine as it was, or the effect of the instruction in front of the cursor. -/
theorem stepOnce_cases (hm : RunsCore origin m) (hactivity : m.activity = .script c) :
    (c.rest = [] ∧ (stepOnce.run m).result = .ok .halted ∧
      m.stepped = { m with toContext := m.halted }) ∨
    (∃ e, (stepOnce.run m).result = .error e ∧ m.stepped = m.faulted e) ∨
    (∃ (i : Instruction) (back : List UInt8), c.rest = i.encode ++ back ∧
      i.check (c.advance i.opcode.size) m = .ok () ∧ (stepOnce.run m).result = .ok i.outcome ∧
      m.stepped = i.effect (c.advance i.opcode.size) m) := by
  have henabled : m.enabled = true := hm.enabled.trans hm.on
  have htable : m.table = .core := hm.table.trans hm.core
  have hunit := run_stepOnce_of_script henabled hactivity
  rw [movedTo_of_activity hactivity] at hunit
  rcases dispatch_cases htable hactivity with ⟨hend, hresult, hmachine⟩ |
    ⟨e, d, hresult, hmachine, -⟩ | ⟨i, back, hrest, hcheck, hresult, hmachine⟩
  · rw [run_catching_of_ok hresult] at hunit
    rw [stepped, hunit]
    exact .inl ⟨hend, hresult, hmachine⟩
  · rw [← movedTo_of_activity hactivity] at hresult hmachine
    exact .inr (.inl ⟨e, stepOnce_of_dispatch_error henabled hactivity hresult hmachine⟩)
  · rw [run_catching_of_ok hresult] at hunit
    rw [stepped, hunit]
    exact .inr (.inr ⟨i, back, hrest, hcheck, hresult, hmachine⟩)

theorem stepped_of_fault (hm : RunsCore origin m) (h : (stepOnce.run m).result = .error e) :
    m.stepped = m.faulted e := by
  obtain ⟨c, hactivity⟩ := hm.exists_activity
  obtain ⟨-, hresult, -⟩ | ⟨e', hresult, hstepped⟩ | ⟨i, back, -, -, hresult, -⟩ :=
    hm.stepOnce_cases hactivity
  · rw [hresult] at h
    cases h
  · rw [hresult] at h
    cases h
    exact hstepped
  · rw [hresult] at h
    cases h

theorem stepped_of_more (hm : RunsCore origin m) (hactivity : m.activity = .script c)
    (h : (stepOnce.run m).result = .ok .running) :
    ∃ (i : Instruction) (back : List UInt8), c.rest = i.encode ++ back ∧
      i.check (c.advance i.opcode.size) m = .ok () ∧ i.outcome = .running ∧
      m.stepped = i.effect (c.advance i.opcode.size) m := by
  obtain ⟨-, hresult, -⟩ | ⟨e, hresult, -⟩ | ⟨i, back, hrest, hcheck, hresult, hstepped⟩ :=
    hm.stepOnce_cases hactivity
  · rw [hresult] at h
    cases h
  · rw [hresult] at h
    cases h
  · rw [hresult] at h
    exact ⟨i, back, hrest, hcheck, Except.ok.inj h, hstepped⟩

theorem parked_of_more (hm : RunsCore origin m) (h : (stepOnce.run m).result = .ok .running) :
    m.stepped.parked = m.parked := by
  obtain ⟨c, hactivity⟩ := hm.exists_activity
  obtain ⟨i, back, -, -, houtcome, hstepped⟩ := hm.stepped_of_more hactivity h
  rw [hstepped]
  exact i.parked_effect houtcome _ m

/-! ## Batches -/

/-- **A batch that faults is the units before the fault**, and then the fault. -/
theorem units_of_fault (hm : RunsCore origin m) {budget : Nat}
    (h : ((whileRunning stepOnce budget).run m).result = .error e) :
    ∃ k < budget, (∀ i < k, (stepOnce.run (stepped^[i] m)).result = .ok .running) ∧
      (stepOnce.run (stepped^[k] m)).result = .error e ∧
      (stepped^[k] m).parked = m.parked ∧
      ((whileRunning stepOnce budget).run m).machine = (stepped^[k] m).faulted e := by
  -- Each unit that answers that there is more to do takes one off the budget.
  induction budget generalizing m with
  | zero => cases h
  | succ budget ih =>
    by_cases hmore : (stepOnce.run m).result = .ok .running
    · have hnext : RunsCore origin m.stepped := hm.next hmore
      rw [run_whileRunning_of_more hmore hnext.normal] at h ⊢
      obtain ⟨k, hk, hunits, hlast, hparked, hmachine⟩ := ih hnext h
      refine ⟨k + 1, Nat.succ_lt_succ hk, ?_, hlast, ?_, hmachine⟩
      · rintro (_ | i) hi
        · exact hmore
        · exact hunits i (Nat.lt_of_succ_lt_succ hi)
      · exact hparked.trans (hm.parked_of_more hmore)
    · rw [run_whileRunning_of_no_more fun hboth ↦ hmore hboth.1] at h ⊢
      exact ⟨0, Nat.succ_pos budget, nofun, h, rfl, hm.stepped_of_fault h⟩

end Action.RunsCore

theorem Reachable.parked_eq_none [CommandSet κ] {handler : κ → Handler κ Verdict} {m : Machine κ}
    (hhandler : ∀ command, (handler command).Admissible) (h : Reachable handler m)
    (hmode : m.mode = .normal) : m.parked = none :=
  (h.sound hhandler).parked_eq_none hmode

open EventScript.Action

/-- **A fault leaves no trace but itself.** A step under the core table that ends in a fault has
made some units that went well, fewer than it may make, and one that failed; and the machine is the
one that the former left, except that it is paused and has the fault recorded. -/
theorem fault_leaves_no_trace [CommandSet κ] {handler : κ → Handler κ Verdict} {m : Machine κ}
    (hhandler : ∀ command, (handler command).Admissible) (hreachable : Reachable handler m)
    (henabled : m.enabled = true) (hmode : m.mode = .normal) (htable : m.table = .core) {e : Fault}
    (h : (step.run m).result = .error e) :
    ∃ k < m.stride, (∀ i < k, (stepOnce.run (stepped^[i] m)).result = .ok .running) ∧
      (stepOnce.run (stepped^[k] m)).result = .error e ∧
      (step.run m).machine = { stepped^[k] m with activity := .paused, lastFault := some e } := by
  have hm : RunsCore m m := .self henabled htable hmode
  have hstep : step.run m = (whileRunning stepOnce m.stride).run m := by
    rw [run_step]
    exact run_stepUpTo_eq_units quiet_core ⟨henabled, htable⟩ hmode m.stride
  rw [hstep] at h ⊢
  obtain ⟨k, hk, hunits, hlast, hparked, hmachine⟩ := hm.units_of_fault h
  refine ⟨k, hk, hunits, hlast, ?_⟩
  have hnone : (stepped^[k] m).parked = none :=
    hparked.trans (hreachable.parked_eq_none hhandler hmode)
  rw [hmachine, faulted, Context.halted, ← hnone]

/-- A call to the instruction behind it, a load, and a copy to a bank that is not there. -/
def brokenScript : Script :=
  .ofBytes 0 [0x03, 0x05, 0x00, 0x00, 0x00, 0x07, 0x00, 0x05, 0x00, 0x00, 0x00, 0x0a, 0x09, 0x00]

/-- The script about to run in batches of four. -/
def brokenStart : Machine Opcode :=
  (Action.run (.start brokenScript .core)
    { Context.ofConfig "primary" { policy := .untilSuspend, budget := 4 } with }).machine

/-- The copy fails in the third unit of a batch, when its operands have been read and the bank to be
copied has been found. The call and the load stay. -/
theorem fault_leaves_no_trace_midway :
    (step.run brokenStart).result = .error (.invalidBankIndex 9) ∧
      (∃ k < 4, (∀ i < k, (stepOnce.run (stepped^[i] brokenStart)).result = .ok .running) ∧
        (stepOnce.run (stepped^[k] brokenStart)).result = .error (.invalidBankIndex 9) ∧
        (step.run brokenStart).machine =
          { stepped^[k] brokenStart with
            activity := .paused, lastFault := some (.invalidBankIndex 9) }) ∧
      (step.run brokenStart).machine.banks = #v[5, 0, 0, 0] ∧
      (step.run brokenStart).machine.callStack = [⟨brokenScript, 5⟩] := by
  have hreachable : Reachable (fun op ↦ .ofProgram (Command.core op)) brokenStart :=
    .request (.start brokenScript .core) trivial (.ofConfig "primary" _ .zero)
  exact ⟨rfl, fault_leaves_no_trace Handler.admissible_core hreachable rfl rfl rfl rfl, rfl, rfl⟩

end EventScript
