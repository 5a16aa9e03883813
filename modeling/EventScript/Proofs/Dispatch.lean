import EventScript.Machine.Step
import EventScript.Proofs.Reading

/-!
# What a dispatch unit does

A dispatch unit has three courses: the script is at its end and stops, the opcode has no command, or
the command is carried out on the machine with the cursor behind the opcode. Each is one equation
here, and so is each course of a step; later files reason from these equations and do not open
`dispatch` or `stepUpTo` again.

## Invariants

A property of machines survives a step if it survives the few changes a step makes by itself,
collected in `StableUnderStep`, and the commands that the bound table has. The property may speak of
the bound table, so that an invariant of one table need not hold under another.
-/

namespace EventScript

variable {κ α β : Type}

/-- The machine running its script from a cursor. -/
def Machine.movedTo (m : Machine κ) (cursor : Cursor) : Machine κ :=
  { m with activity := .script cursor }

namespace Machine

variable (m : Machine κ) (c : Cursor)

@[simp] theorem activity_movedTo : (m.movedTo c).activity = .script c := rfl

@[simp] theorem table_movedTo : (m.movedTo c).table = m.table := rfl

@[simp] theorem callStack_movedTo : (m.movedTo c).callStack = m.callStack := rfl

@[simp] theorem enabled_movedTo : (m.movedTo c).enabled = m.enabled := rfl

variable {m c}

theorem movedTo_of_activity (h : m.activity = .script c) : m.movedTo c = m := by
  rcases m with ⟨context, temporaries⟩
  cases context
  cases h
  rfl

/-- In normal mode there is a cursor, and the machine is the one running from it. -/
theorem exists_eq_movedTo_of_mode (h : m.mode = .normal) : ∃ cursor, m = m.movedTo cursor := by
  cases hactivity : m.activity with
  | script cursor => exact ⟨cursor, (movedTo_of_activity hactivity).symm⟩
  | paused =>
    rw [Context.mode, hactivity] at h
    cases h
  | native task =>
    rw [Context.mode, hactivity] at h
    cases h

end Machine

/-! ## Reading operands -/

/-- The request reads an operand of `width` bytes, which is what `take?` takes off the front of the
bytes left. -/
structure Request.Fetches (r : Request κ) (take? : List UInt8 → Option (r.Answer × List UInt8))
    (width : Nat) (decode : List UInt8 → r.Answer) : Prop extends Takes take? width decode where
  /-- It is carried out as a read through the cursor. -/
  perform : ∃ operation, r.perform = Action.readWith operation fun c ↦ c.readAs width decode

namespace Request

open Instruction

theorem fetches_readU8 : (readU8 : Request κ).Fetches takeByte? 1 Bytes.toUInt8 :=
  ⟨takes_byte, "read_u8", rfl⟩

theorem fetches_readU16 : (readU16 : Request κ).Fetches takeHalf? 2 Bytes.toUInt16 :=
  ⟨takes_half, "read_u16", rfl⟩

theorem fetches_readU32 : (readU32 : Request κ).Fetches takeWord? 4 Bytes.toUInt32 :=
  ⟨takes_word, "read_u32", rfl⟩

namespace Fetches

variable {r : Request κ} {take? : List UInt8 → Option (r.Answer × List UInt8)} {width : Nat}
  {decode : List UInt8 → r.Answer}

theorem run_of_some (hr : r.Fetches take? width decode) {c : Cursor} {a : r.Answer}
    {back : List UInt8} (htake : take? c.rest = some (a, back)) (m : Machine κ) :
    r.perform.run (m.movedTo c) = ⟨.ok a, m.movedTo (c.advance width), []⟩ := by
  obtain ⟨operation, hperform⟩ := hr.perform
  have hread := (Cursor.readAs_of_some hr.toTakes htake).1
  simp only [hperform, Action.readWith, Machine.activity_movedTo, hread]
  rfl

theorem run_of_none (hr : r.Fetches take? width decode) {c : Cursor} (htake : take? c.rest = none)
    (m : Machine κ) :
    r.perform.run (m.movedTo c) = ⟨.error (c.truncation width), m.movedTo c, []⟩ := by
  obtain ⟨operation, hperform⟩ := hr.perform
  have hread := Cursor.readAs_of_none hr.toTakes htake
  simp only [hperform, Action.readWith, Machine.activity_movedTo, hread]

end Fetches

end Request

namespace Action

open Instruction

theorem run_readU8_of_rest {m : Machine κ} {c : Cursor} {b : UInt8} {back : List UInt8}
    (h : c.rest = b :: back) :
    readU8.run (m.movedTo c) = ⟨.ok b, m.movedTo (c.advance 1), []⟩ :=
  Request.fetches_readU8.run_of_some (takeByte?_eq_some_iff.mpr h) m

/-! ## What the verdict of a command leads to -/

section heeding

variable {a : Action κ Verdict} {m : Machine κ}

theorem run_heeding_of_error {e : Fault} (h : (a.run m).result = .error e) :
    (heeding a).run m = ⟨.error e, (a.run m).machine, (a.run m).events⟩ := by
  rw [heeding, run_bind_of_error h]

theorem run_heeding_of_proceed (h : (a.run m).result = .ok .proceed) :
    (heeding a).run m = ⟨.ok (a.run m).machine.outcome, (a.run m).machine, (a.run m).events⟩ := by
  rw [heeding, run_bind_of_ok h]
  simp only [reduceCtorEq, if_false, run_bind, run_pure, run_machine, List.append_nil]

theorem run_heeding_of_suspend (h : (a.run m).result = .ok .suspend) :
    (heeding a).run m =
      ⟨.ok (park.run (a.run m).machine).machine.outcome, (park.run (a.run m).machine).machine,
        (a.run m).events ++ (park.run (a.run m).machine).events⟩ := by
  have hpark : ∀ n : Machine κ, (park.run n).result = .ok () := by
    intro n
    cases hactivity : n.activity <;> simp [park, hactivity]
  rw [heeding, run_bind_of_ok h]
  simp only [if_true, run_bind, hpark, run_pure, run_machine, List.append_nil]

theorem eq_outcome_of_heeding {outcome : StepOutcome}
    (h : ((heeding a).run m).result = .ok outcome) :
    outcome = ((heeding a).run m).machine.outcome := by
  cases hresult : (a.run m).result with
  | error e =>
    rw [run_heeding_of_error hresult] at h
    cases h
  | ok verdict =>
    cases verdict with
    | proceed =>
      rw [run_heeding_of_proceed hresult] at h ⊢
      cases h
      rfl
    | suspend =>
      rw [run_heeding_of_suspend hresult] at h ⊢
      cases h
      rfl

end heeding

/-! ## The courses of a dispatch unit -/

variable [Handlers κ]

theorem run_dispatch_of_atEnd {m : Machine κ} {c : Cursor} (h : c.rest = []) :
    dispatch.run (m.movedTo c) =
      ⟨.ok .halted, { m with toContext := m.halted }, [.reachedEnd c.offset]⟩ := by
  have hend : c.atEnd = true := Cursor.atEnd_iff.mpr h
  simp only [dispatch, run_bind, run_machine, Machine.activity_movedTo, hend, if_true, run_report,
    stop, run_modify, run_pure]
  rfl

theorem run_dispatch_of_error {m : Machine κ} {c : Cursor} {opcode : UInt8} {back : List UInt8}
    {kind : Corruption} (h : c.rest = opcode :: back)
    (hlookup : m.table.lookup opcode = .error kind) :
    dispatch.run (m.movedTo c) =
      ⟨.error (.corruptProgram c.offset kind), m.movedTo (c.advance 1), []⟩ := by
  have hend : c.atEnd = false := Cursor.atEnd_eq_false_of_rest h
  simp only [dispatch, run_bind, run_machine, Machine.activity_movedTo, hend, Bool.false_eq_true,
    if_false, run_readU8_of_rest h, Machine.table_movedTo, hlookup, run_fail, List.nil_append]

theorem run_dispatch_of_command {m : Machine κ} {c : Cursor} {opcode : UInt8} {back : List UInt8}
    {command : κ} (h : c.rest = opcode :: back)
    (hlookup : m.table.lookup opcode = .ok command) :
    dispatch.run (m.movedTo c) =
      { (heeding (Handlers.handle command)).run (m.movedTo (c.advance 1)) with
        events := .dispatched opcode c.offset m.table.name ::
          ((heeding (Handlers.handle command)).run (m.movedTo (c.advance 1))).events } := by
  have hend : c.atEnd = false := Cursor.atEnd_eq_false_of_rest h
  simp only [dispatch, run_bind, run_machine, Machine.activity_movedTo, hend, Bool.false_eq_true,
    if_false, run_readU8_of_rest h, Machine.table_movedTo, hlookup, run_report, List.nil_append,
    List.singleton_append]

theorem run_dispatch_of_idle {m : Machine κ} (h : m.mode ≠ .normal) :
    dispatch.run m = ⟨.ok .idle, m, []⟩ := by
  cases hactivity : m.activity with
  | script cursor => exact absurd (by rw [Context.mode, hactivity]; rfl) h
  | paused | native _ => simp [dispatch, run_bind, hactivity]

/-! ## The courses of a step -/

theorem run_stepUpTo_of_disabled {m : Machine κ} (h : m.enabled = false) (budget : Nat) :
    (stepUpTo budget).run m = ⟨.ok .idle, m, []⟩ := by
  simp [stepUpTo, run_bind, h]

theorem run_stepUpTo_of_paused {m : Machine κ} (h : m.activity = .paused) (budget : Nat) :
    (stepUpTo budget).run m = ⟨.ok .idle, m, []⟩ := by
  cases henabled : m.enabled <;> simp [stepUpTo, run_bind, h, henabled]

theorem run_stepUpTo_of_native {m : Machine κ} {task : NativeTask} (henabled : m.enabled = true)
    (h : m.activity = .native task) (budget : Nat) :
    (stepUpTo budget).run m = (pollNative task).run m := by
  simp [stepUpTo, run_bind, h, henabled]

theorem run_stepUpTo_of_script {m : Machine κ} {c : Cursor} (henabled : m.enabled = true)
    (budget : Nat) :
    (stepUpTo budget).run (m.movedTo c) = (catching (dispatchUpTo budget)).run (m.movedTo c) := by
  simp [stepUpTo, run_bind, henabled]

end Action

/-- The number of dispatch units that a step of the context may take. -/
def Context.stride (c : Context κ) : Nat :=
  match c.policy with
  | .singleInstruction => 1
  | .untilSuspend => c.budget

theorem Action.run_step [Handlers κ] (m : Machine κ) :
    step.run m = (stepUpTo m.stride).run m := by
  cases hpolicy : m.policy <;> simp [step, run_bind, Context.stride, hpolicy]

/-- The machine after a fault. -/
def Machine.faulted (m : Machine κ) (e : Fault) : Machine κ :=
  { m with toContext := { m.halted with lastFault := some e } }

namespace Action

theorem run_catching_of_ok {a : Action κ α} {m : Machine κ} {x : α}
    (h : (a.run m).result = .ok x) : (catching a).run m = a.run m := by
  simp only [catching, h]

theorem run_catching_of_error {a : Action κ α} {m : Machine κ} {e : Fault}
    (h : (a.run m).result = .error e) :
    (catching a).run m =
      ⟨.error e, (a.run m).machine.faulted e, (a.run m).events ++ [.faulted e]⟩ := by
  simp only [catching, h]
  rfl

/-! ## Invariants -/

/-- The property survives the action, whether the action succeeds or is refused. -/
def Preserves (P : Machine κ → Prop) (a : Action κ α) : Prop := ∀ m, P m → P (a.run m).machine

variable {P : Machine κ → Prop}

/-! ## Faults

An invariant often says which faults can come up at all. `Keeps` has both in one, and a step keeps
what a dispatch unit keeps. -/

end Action

/-- The machine left behind has the property, and a refusal is for one of the faults. -/
structure Reply.Meets (P : Machine κ → Prop) (F : Fault → Prop) (reply : Reply κ α) : Prop where
  /-- The machine has the property. -/
  machine : P reply.machine
  /-- The fault is among those expected. -/
  fault : ∀ e, reply.result = .error e → F e

namespace Reply.Meets

variable {P : Machine κ → Prop} {F : Fault → Prop} {m : Machine κ} {events : List Event}

theorem ok {a : α} (h : P m) : Reply.Meets P F ⟨.ok a, m, events⟩ := ⟨h, nofun⟩

theorem error {e : Fault} (h : P m) (he : F e) :
    Reply.Meets P F (⟨.error e, m, events⟩ : Reply κ α) := by
  refine ⟨h, ?_⟩
  rintro _ ⟨⟩
  exact he

theorem bind {a : Action κ α} {f : α → Action κ β} (ha : (a.run m).Meets P F)
    (hf : ∀ x, (a.run m).result = .ok x → ((f x).run (a.run m).machine).Meets P F) :
    ((a >>= f).run m).Meets P F := by
  cases hresult : (a.run m).result with
  | ok x =>
    rw [Action.run_bind_of_ok hresult]
    exact ⟨(hf x hresult).machine, (hf x hresult).fault⟩
  | error e =>
    rw [Action.run_bind_of_error hresult]
    exact error ha.machine (ha.fault e hresult)

/-- An answer of one's own after an action changes nothing else. -/
theorem bind_pure {a : Action κ α} {b : β} (h : (a.run m).Meets P F) :
    ((a >>= fun _ ↦ pure b).run m).Meets P F :=
  h.bind fun _ _ ↦ ok h.machine

end Reply.Meets

namespace Action

variable {P : Machine κ → Prop} {F : Fault → Prop}

/-- The property survives the action, which is refused only for one of the faults. -/
def Keeps (P : Machine κ → Prop) (F : Fault → Prop) (a : Action κ α) : Prop :=
  ∀ m, P m → (a.run m).Meets P F

theorem Preserves.keeps {a : Action κ α} (h : Preserves P a) : Keeps P (fun _ ↦ True) a :=
  fun m hm ↦ ⟨h m hm, fun _ _ ↦ trivial⟩

namespace Keeps

theorem preserves {a : Action κ α} (h : Keeps P F a) : Preserves P a :=
  fun m hm ↦ (h m hm).machine

theorem catching {a : Action κ α} (ha : Keeps P F a) (hfault : ∀ e m, P m → P (m.faulted e)) :
    Keeps P F (catching a) := by
  intro m hm
  have hreply := ha m hm
  cases hresult : (a.run m).result with
  | ok x =>
    rw [run_catching_of_ok hresult]
    exact hreply
  | error e =>
    rw [run_catching_of_error hresult]
    exact .error (hfault e _ hreply.machine) (hreply.fault e hresult)

variable [Handlers κ]

theorem dispatchUpTo (h : Keeps P F (dispatch : Action κ StepOutcome)) (budget : Nat) :
    Keeps P F (dispatchUpTo budget : Action κ StepOutcome) := by
  induction budget with
  | zero => exact fun m hm ↦ .ok hm
  | succ budget ih =>
    intro m hm
    refine (h m hm).bind fun outcome _ ↦ ?_
    -- Whether to go on is decided by a look at the machine, which changes nothing.
    have hnext : P (dispatch.run m).machine := (h m hm).machine
    refine Reply.Meets.bind (a := machine) (.ok hnext) ?_
    rintro n ⟨⟩
    split
    · exact ih _ hnext
    · exact .ok hnext

/-- **A step keeps what a dispatch unit keeps**, once the end of a script by a fault and the answers
of a native task are no exception. -/
theorem stepUpTo (h : Keeps P F (dispatch : Action κ StepOutcome))
    (hfault : ∀ e m, P m → P (m.faulted e))
    (hpoll : ∀ task m, m.activity = .native task → P m → ((pollNative task).run m).Meets P F)
    (budget : Nat) : Keeps P F (stepUpTo budget : Action κ StepOutcome) := by
  intro m hm
  cases henabled : m.enabled with
  | false =>
    rw [run_stepUpTo_of_disabled henabled]
    exact .ok hm
  | true =>
    cases hactivity : m.activity with
    | paused =>
      rw [run_stepUpTo_of_paused hactivity]
      exact .ok hm
    | native task =>
      rw [run_stepUpTo_of_native henabled hactivity]
      exact hpoll task m hactivity hm
    | script cursor =>
      rw [← Machine.movedTo_of_activity hactivity] at hm ⊢
      rw [run_stepUpTo_of_script henabled]
      exact (h.dispatchUpTo budget).catching hfault _ hm

end Keeps

/-! ## What a step does by itself -/

/-- The property survives what a step does by itself: fetching an opcode, parking and stopping the
script, recording a fault, and asking a native task. -/
structure StableUnderStep (P : Machine κ → Prop) : Prop where
  /-- The opcode is fetched. -/
  fetch : Preserves P (readU8 : Action κ UInt8)
  /-- The script is parked. -/
  park : Preserves P (park : Action κ Unit)
  /-- The script stops. -/
  stop : Preserves P (stop : Action κ Unit)
  /-- A fault ends the script. -/
  fault : ∀ e m, P m → P (m.faulted e)
  /-- The native task of the machine is asked. -/
  poll : ∀ task m, m.activity = .native task → P m → P ((pollNative task).run m).machine

theorem StableUnderStep.catching (hP : StableUnderStep P) {a : Action κ α} (ha : Preserves P a) :
    Preserves P (catching a) :=
  (ha.keeps.catching hP.fault).preserves

theorem StableUnderStep.heeding (hP : StableUnderStep P) {a : Action κ Verdict} {m : Machine κ}
    (h : P (a.run m).machine) : P ((heeding a).run m).machine := by
  cases hresult : (a.run m).result with
  | error e =>
    rw [run_heeding_of_error hresult]
    exact h
  | ok verdict =>
    cases verdict with
    | proceed =>
      rw [run_heeding_of_proceed hresult]
      exact h
    | suspend =>
      rw [run_heeding_of_suspend hresult]
      exact hP.park _ h

variable [Handlers κ]

/-- The property survives every command that the table bound at the time has, in normal mode. -/
def CommandsPreserve (P : Machine κ → Prop) : Prop :=
  ∀ m opcode command, P m → m.mode = .normal → m.table.lookup opcode = .ok command →
    P ((Handlers.handle command).run m).machine

namespace StableUnderStep

theorem dispatch (hP : StableUnderStep P) (hcommands : CommandsPreserve P) :
    Preserves P (dispatch : Action κ StepOutcome) := by
  intro m hm
  by_cases hmode : m.mode = .normal
  · obtain ⟨c, hc⟩ := Machine.exists_eq_movedTo_of_mode hmode
    rw [hc] at hm ⊢
    cases hrest : c.rest with
    | nil =>
      rw [run_dispatch_of_atEnd hrest]
      exact hP.stop (m.movedTo c) hm
    | cons opcode back =>
      -- The opcode is gone from the script before it is known whether it has a command.
      have hfetched : P (m.movedTo (c.advance 1)) := by
        have h := hP.fetch _ hm
        rwa [run_readU8_of_rest hrest] at h
      cases hlookup : m.table.lookup opcode with
      | error kind =>
        rw [run_dispatch_of_error hrest hlookup]
        exact hfetched
      | ok command =>
        rw [run_dispatch_of_command hrest hlookup]
        exact hP.heeding (hcommands _ opcode command hfetched rfl hlookup)
  · rw [run_dispatch_of_idle hmode]
    exact hm

theorem stepUpTo (hP : StableUnderStep P) (hcommands : CommandsPreserve P) (budget : Nat) :
    Preserves P (stepUpTo budget : Action κ StepOutcome) :=
  ((hP.dispatch hcommands).keeps.stepUpTo hP.fault
    (fun task m htask hm ↦ ⟨hP.poll task m htask hm, fun _ _ ↦ trivial⟩) budget).preserves

/-- **A step keeps what its parts keep.** -/
theorem step (hP : StableUnderStep P) (hcommands : CommandsPreserve P) :
    Preserves P (step : Action κ StepOutcome) := by
  intro m hm
  rw [run_step]
  exact hP.stepUpTo hcommands _ m hm

end StableUnderStep

end Action

/-! ## Outcomes

What the outcome of a context says about its mode and about what is parked. -/

namespace Context

variable {c : Context κ}

theorem outcome_ne_idle (c : Context κ) : c.outcome ≠ .idle := by
  rw [outcome]
  split <;> nofun

theorem outcome_eq_running_iff : c.outcome = .running ↔ c.mode ≠ .paused := by
  rw [outcome, mode]
  split <;> simp [Activity.mode, *]

theorem outcome_eq_suspended_iff :
    c.outcome = .suspended ↔ c.mode = .paused ∧ ∃ cursor, c.parked = some cursor := by
  rw [outcome, mode]
  split <;> simp [Activity.mode, *]

theorem outcome_eq_halted_iff : c.outcome = .halted ↔ c.mode = .paused ∧ c.parked = none := by
  rw [outcome, mode]
  split <;> simp [Activity.mode, *]

end Context

namespace Action

variable [Handlers κ]

theorem eq_outcome_of_dispatch {m : Machine κ} {c : Cursor} {outcome : StepOutcome}
    (h : (dispatch.run (m.movedTo c)).result = .ok outcome) :
    outcome = (dispatch.run (m.movedTo c)).machine.outcome := by
  cases hrest : c.rest with
  | nil =>
    rw [run_dispatch_of_atEnd hrest] at h ⊢
    cases h
    rfl
  | cons opcode back =>
    cases hlookup : m.table.lookup opcode with
    | error kind =>
      rw [run_dispatch_of_error hrest hlookup] at h
      cases h
    | ok command =>
      rw [run_dispatch_of_command hrest hlookup] at h ⊢
      exact eq_outcome_of_heeding h

/-- A dispatch unit that answers that there is more to do leaves something to do. -/
theorem mode_ne_paused_of_dispatch {m : Machine κ} {c : Cursor}
    (h : (dispatch.run (m.movedTo c)).result = .ok .running) :
    (dispatch.run (m.movedTo c)).machine.mode ≠ .paused :=
  Context.outcome_eq_running_iff.mp (eq_outcome_of_dispatch h).symm

end Action

end EventScript
