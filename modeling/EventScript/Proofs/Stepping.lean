import EventScript.Proofs.Atomicity
import EventScript.Proofs.Breakpoints

/-!
# Stepping over and stepping out

A debugger that finishes a subroutine only watches the height of the call stack: it makes units
until the stack is back to its height before the call. This file shows that this is enough to come
back to the right place, and says when the debugger gives up on the way.

## Two accounts

What a run of the debugger comes to is read off the plain units first, whatever the table and the
condition to go on (`Machine.Passes`, `Machine.Leaves`). It reaches its limit if the condition holds
after so many units, and it is complete after the first unit that breaks the condition; a
breakpoint, a suspension, a halt or a fault on the way is neither.

What the units do to the call stack is the other account. The return address of a subroutine and the
stack below it are the frame of the call. Under the core table a unit leaves the stack as it is,
adds a return address, or goes back to the one on top, so the frame stays at the lower end of the
stack until the unit that makes the stack shorter than the frame, and that unit goes back to its
top. It does not matter what happens in between; a recursive subroutine comes by the same offsets
with a higher stack.
-/

namespace EventScript

open Machine EventScript.Action

variable {κ : Type} [CommandSet κ]

/-! ## Units that go on -/

namespace Machine

/-- There is no breakpoint but one to skip, and a unit leaves more to do. -/
def GoesOn (breakpoints : List Nat) (skip : Option Nat) (m : Machine κ) : Prop :=
  (∀ offset, m.breakpoint? breakpoints = some offset → skip = some offset) ∧
    (stepOnce.run m).result = .ok .running

/-- So many units go on, and the condition holds after each. A breakpoint is skipped only at the
first. -/
def Passes (breakpoints : List Nat) (keepGoing : Machine κ → Bool) (skip : Option Nat)
    (units : Nat) (m : Machine κ) : Prop :=
  ∀ i < units, (stepped^[i] m).GoesOn breakpoints (if i = 0 then skip else none) ∧
    keepGoing (stepped^[i + 1] m) = true

/-- After so many units one more goes on, and after it the condition does not hold. -/
def Leaves (breakpoints : List Nat) (keepGoing : Machine κ → Bool) (skip : Option Nat)
    (units : Nat) (m : Machine κ) : Prop :=
  m.Passes breakpoints keepGoing skip units ∧
    (stepped^[units] m).GoesOn breakpoints (if units = 0 then skip else none) ∧
    keepGoing (stepped^[units + 1] m) = false

/-- The offset of the running script. -/
def offset (m : Machine κ) : Nat := (m.position?.map Cursor.offset).getD 0

variable {breakpoints : List Nat} {keepGoing : Machine κ → Bool} {skip : Option Nat} {units : Nat}
  {m : Machine κ}

theorem passes_succ_iff :
    m.Passes breakpoints keepGoing skip (units + 1) ↔
      (m.GoesOn breakpoints skip ∧ keepGoing m.stepped = true) ∧
        m.stepped.Passes breakpoints keepGoing none units := by
  simp only [Passes, Nat.forall_lt_succ_left, Nat.add_one_ne_zero, if_true, if_false, ite_self]
  rfl

theorem leaves_zero_iff :
    m.Leaves breakpoints keepGoing skip 0 ↔
      m.GoesOn breakpoints skip ∧ keepGoing m.stepped = false :=
  and_iff_right fun _ hi ↦ absurd hi (Nat.not_lt_zero _)

theorem leaves_succ_iff :
    m.Leaves breakpoints keepGoing skip (units + 1) ↔
      (m.GoesOn breakpoints skip ∧ keepGoing m.stepped = true) ∧
        m.stepped.Leaves breakpoints keepGoing none units := by
  rw [Leaves, passes_succ_iff, and_assoc]
  simp only [Leaves, Nat.add_one_ne_zero, if_false, ite_self]
  rfl

theorem Leaves.more (h : m.Leaves breakpoints keepGoing skip units) :
    (stepOnce.run m).result = .ok .running := by
  cases units with
  | zero => exact (leaves_zero_iff.mp h).1.2
  | succ units => exact (leaves_succ_iff.mp h).1.1.2

theorem enabled_of_more (h : (stepOnce.run m).result = .ok .running) : m.enabled = true := by
  refine eq_true_of_ne_false fun hoff ↦ ?_
  rw [stepOnce, run_stepUpTo_of_disabled hoff] at h
  cases h

end Machine

/-! ## Runs of the debugger -/

namespace Debugger

variable {keepGoing : Machine κ → Bool} {skip : Option Nat} {d : Debugger κ}

theorem state_stepInto (d : Debugger κ) :
    d.stepInto.state = { d with machine := d.machine.stepped, stoppedAt := none } := rfl

omit [CommandSet κ] in
theorem filter_hit?_eq_none_iff :
    (d.hit?.filter fun offset ↦ skip ≠ some offset) = none ↔
      ∀ offset, d.machine.breakpoint? d.breakpoints = some offset → skip = some offset := by
  rw [Option.filter_eq_none_iff, hit?_eq]
  simp

theorem runWhile_of_kept (h : d.machine.GoesOn d.breakpoints skip)
    (hkeep : keepGoing d.machine.stepped = true) (limit : Nat) :
    (runWhile keepGoing (limit + 1) skip d).answer =
        (runWhile keepGoing limit none d.stepInto.state).answer ∧
      (runWhile keepGoing (limit + 1) skip d).state =
        (runWhile keepGoing limit none d.stepInto.state).state := by
  rw [(runWhile_of_more (filter_hit?_eq_none_iff.mpr h.1) h.2 hkeep limit).1]
  exact ⟨rfl, rfl⟩

theorem runWhile_of_left (h : d.machine.GoesOn d.breakpoints skip)
    (hkeep : keepGoing d.machine.stepped = false) (limit : Nat) :
    (runWhile keepGoing (limit + 1) skip d).answer = .stepped d.machine.stepped.offset ∧
      (runWhile keepGoing (limit + 1) skip d).state.machine = d.machine.stepped := by
  have hanswer : d.stepInto.answer = .ok .running := h.2
  have hstop : keepGoing d.stepInto.state.machine = false := hkeep
  simp only [runWhile, filter_hit?_eq_none_iff.mpr h.1, hanswer, hstop, Bool.false_eq_true,
    if_false]
  refine ⟨?_, rfl⟩
  rw [state_stepInto, Machine.offset]
  cases d.machine.stepped.position? <;> rfl

theorem runWhile_of_not_goesOn (keepGoing : Machine κ → Bool)
    (h : ¬d.machine.GoesOn d.breakpoints skip) (limit : Nat) :
    (runWhile keepGoing (limit + 1) skip d).answer ≠ .stepLimit ∧
      ∀ offset, (runWhile keepGoing (limit + 1) skip d).answer ≠ .stepped offset := by
  rcases hstop : d.hit?.filter fun offset ↦ skip ≠ some offset with _ | offset
  · have hanswer : d.stepInto.answer ≠ .ok .running :=
      fun hmore ↦ h ⟨filter_hit?_eq_none_iff.mp hstop, hmore⟩
    rcases hresult : d.stepInto.answer with e | _ | _ | _ | _
    case ok.running => exact absurd hresult hanswer
    all_goals
      simp only [runWhile, hstop, hresult, Stop.ofOutcome]
      simp
  · rw [(runWhile_of_hit keepGoing hstop limit).1]
    simp

/-- **What a run of the debugger comes to.** It reaches its limit exactly if so many units go on
with the condition holding after each, and it is complete exactly with the first unit, within the
limit, after which the condition does not hold. -/
theorem answer_runWhile (keepGoing : Machine κ → Bool) (limit : Nat) (skip : Option Nat)
    (d : Debugger κ) :
    ((runWhile keepGoing limit skip d).answer = .stepLimit ↔
      d.machine.Passes d.breakpoints keepGoing skip limit) ∧
    ∀ offset last, ((runWhile keepGoing limit skip d).answer = .stepped offset ∧
        (runWhile keepGoing limit skip d).state.machine = last) ↔
      ∃ units < limit, d.machine.Leaves d.breakpoints keepGoing skip units ∧
        last = stepped^[units + 1] d.machine ∧ offset = last.offset := by
  induction limit generalizing skip d with
  | zero => simp [runWhile, Passes]
  | succ limit ih =>
    simp only [passes_succ_iff, Nat.exists_lt_succ_left, leaves_zero_iff, leaves_succ_iff]
    by_cases hunit : d.machine.GoesOn d.breakpoints skip
    · rcases hkeep : keepGoing d.machine.stepped with _ | _
      · obtain ⟨hanswer, hmachine⟩ := runWhile_of_left hunit hkeep limit
        rw [hanswer, hmachine]
        simp only [hunit, Bool.false_eq_true, and_false, false_and, exists_false, or_false,
          true_and, reduceCtorEq, Stop.stepped.injEq]
        intro offset last
        constructor
        · rintro ⟨rfl, rfl⟩
          exact ⟨rfl, rfl⟩
        · rintro ⟨rfl, rfl⟩
          exact ⟨rfl, rfl⟩
      · obtain ⟨hanswer, hstate⟩ := runWhile_of_kept hunit hkeep limit
        rw [hanswer, hstate]
        simp only [hunit, Bool.true_eq_false, and_false, false_and, and_self, true_and, false_or]
        exact ih none d.stepInto.state
    · obtain ⟨hlimit, hstepped⟩ := runWhile_of_not_goesOn keepGoing hunit limit
      simp only [hunit, hlimit, hstepped, false_and, and_false, exists_false, or_self, implies_true,
        and_self]

end Debugger

/-! ## The frame of a call -/

/-- The instruction makes a call if its condition, if any, holds. -/
def Instruction.Calls (i : Instruction) : Prop :=
  (∃ address, i = call address) ∨ ∃ condition address, i = callIf condition address

omit [CommandSet κ] in
/-- **What an instruction does to the call stack** if the script goes on: nothing, or a call adds
the place behind it, or a return goes back to the place on top. -/
theorem Instruction.callStack_effect_cases {i : Instruction} {next : Cursor} {m : Machine κ}
    (hcheck : i.check next m = .ok ()) (houtcome : i.outcome = .running) :
    (i.effect next m).callStack = m.callStack ∨
    (i.Calls ∧ (i.effect next m).callStack = next :: m.callStack) ∨
    (∃ place rest, m.callStack = place :: rest ∧ (i.effect next m).activity = .script place ∧
      (i.effect next m).callStack = rest) := by
  cases i with
  | stop | wait => cases houtcome
  | ret =>
    rw [check, Context.depth] at hcheck
    rw [effect]
    rcases hstack : m.callStack with _ | ⟨place, rest⟩
    · rw [hstack] at hcheck
      cases hcheck
    · exact .inr (.inr ⟨place, rest, rfl, rfl, rfl⟩)
  | call address => exact .inr (.inl ⟨.inl ⟨address, rfl⟩, rfl⟩)
  | callIf condition address =>
    rw [effect]
    split
    · exact .inr (.inl ⟨.inr ⟨condition, address, rfl⟩, rfl⟩)
    · exact .inl rfl
  | gotoIf _ _ =>
    rw [effect]
    split <;> exact .inl rfl
  | loadBank _ _ | addBank _ _ | copyBank _ _ | loadTemp _ _ =>
    rw [effect, withBank]
    split <;> exact .inl rfl
  | setTemp _ _ | storeTemp _ _ =>
    rw [effect, withTemporary]
    split <;> exact .inl rfl
  | _ => exact .inl rfl

namespace Machine

/-- The next unit makes a call. -/
def CallsNext (m : Machine κ) : Prop :=
  (stepOnce.run m).result = .ok .running ∧ m.depth < m.stepped.depth

/-- The call stack is higher than that. -/
def higherThan (depth : Nat) (m : Machine κ) : Bool := depth < m.depth

omit [CommandSet κ] in
theorem higherThan_iff {depth : Nat} {m : Machine κ} :
    m.higherThan depth = true ↔ depth < m.depth :=
  decide_eq_true_iff

end Machine

namespace Action.RunsCore

variable {origin m : Machine κ} {place c : Cursor} {stack : List Cursor} {units : Nat}

/-- A unit that makes the call stack higher is a call, and what it adds is the place behind it. -/
theorem callStack_of_callsNext (hm : RunsCore origin m) (hactivity : m.activity = .script c)
    (hcalls : m.CallsNext) :
    ∃ (i : Instruction) (back : List UInt8), c.rest = i.encode ++ back ∧ i.Calls ∧
      m.stepped.callStack = c.advance i.opcode.size :: m.callStack := by
  obtain ⟨hmore, hdepth⟩ := hcalls
  obtain ⟨i, back, hrest, hcheck, houtcome, hstepped⟩ := hm.stepped_of_more hactivity hmore
  rw [hstepped] at hdepth ⊢
  rw [Context.depth, Context.depth] at hdepth
  obtain hkept | ⟨hcalls, hpushed⟩ | ⟨place, rest, hstack, -, hpopped⟩ :=
    Instruction.callStack_effect_cases hcheck houtcome
  · rw [hkept] at hdepth
    exact absurd hdepth (Nat.lt_irrefl _)
  · exact ⟨i, back, hrest, hcalls, hpushed⟩
  · rw [hpopped, hstack, List.length_cons] at hdepth
    omega

/-- A unit leaves a frame at the lower end of the call stack, or it goes back to its top. -/
theorem frame_of_more (hm : RunsCore origin m) (hframe : (place :: stack) <:+ m.callStack)
    (hmore : (stepOnce.run m).result = .ok .running) :
    (place :: stack) <:+ m.stepped.callStack ∨
      (m.stepped.activity = .script place ∧ m.stepped.callStack = stack) := by
  obtain ⟨c, hactivity⟩ := hm.exists_activity
  obtain ⟨i, back, -, hcheck, houtcome, hstepped⟩ := hm.stepped_of_more hactivity hmore
  rw [hstepped]
  obtain hkept | ⟨-, hpushed⟩ | ⟨top, rest, hstack, hback, hpopped⟩ :=
    Instruction.callStack_effect_cases hcheck houtcome
  · rw [hkept]
    exact .inl hframe
  · rw [hpushed]
    exact .inl (hframe.trans (List.suffix_cons _ _))
  · rw [hstack] at hframe
    rcases List.suffix_cons_iff.mp hframe with hwhole | hlower
    · obtain ⟨rfl, rfl⟩ := List.cons.inj hwhole
      exact .inr ⟨hback, hpopped⟩
    · rw [hpopped]
      exact .inl hlower

theorem frame_of_units (hm : RunsCore origin m) (hframe : (place :: stack) <:+ m.callStack)
    (hunits : ∀ i < units, (stepOnce.run (stepped^[i] m)).result = .ok .running ∧
      stack.length < (stepped^[i + 1] m).depth) :
    RunsCore origin (stepped^[units] m) ∧ (place :: stack) <:+ (stepped^[units] m).callStack := by
  induction units with
  | zero => exact ⟨hm, hframe⟩
  | succ units ih =>
    obtain ⟨hlast, hbefore⟩ := ih fun i hi ↦ hunits i (Nat.lt_succ_of_lt hi)
    obtain ⟨hmore, hdepth⟩ := hunits units (Nat.lt_succ_self units)
    rw [Function.iterate_succ_apply'] at hdepth ⊢
    refine ⟨hlast.next hmore, ?_⟩
    obtain hstays | ⟨-, hstack⟩ := hlast.frame_of_more hbefore hmore
    · exact hstays
    · rw [Context.depth, hstack] at hdepth
      exact absurd hdepth (Nat.lt_irrefl _)

/-- **A run that leaves a subroutine goes back to the top of its frame.** -/
theorem returns_of_leaves {breakpoints : List Nat} {skip : Option Nat} (hm : RunsCore origin m)
    (hframe : (place :: stack) <:+ m.callStack)
    (h : m.Leaves breakpoints (higherThan stack.length) skip units) :
    (stepped^[units + 1] m).activity = .script place ∧
      (stepped^[units + 1] m).callStack = stack := by
  obtain ⟨hpasses, ⟨-, hmore⟩, hleft⟩ := h
  obtain ⟨hlast, hbefore⟩ := hm.frame_of_units hframe fun i hi ↦
    ⟨(hpasses i hi).1.2, higherThan_iff.mp (hpasses i hi).2⟩
  have hshort : ¬stack.length < (stepped^[units + 1] m).depth := by
    rw [← higherThan_iff, hleft]
    decide
  rw [Function.iterate_succ_apply'] at hshort ⊢
  obtain hstays | hback := hlast.frame_of_more hbefore hmore
  · exact absurd hstays.length_le hshort
  · exact hback

/-- A call that is left again goes on behind it, with the call stack that it found. -/
theorem returns_of_callsNext {breakpoints : List Nat} (hm : RunsCore origin m)
    (hactivity : m.activity = .script c) (hcalls : m.CallsNext)
    (h : m.stepped.Leaves breakpoints (higherThan m.depth) none units) :
    ∃ (i : Instruction) (back : List UInt8), c.rest = i.encode ++ back ∧ i.Calls ∧
      (stepped^[units + 1] m.stepped).activity = .script (c.advance i.opcode.size) ∧
      (stepped^[units + 1] m.stepped).callStack = m.callStack := by
  obtain ⟨i, back, hrest, hi, hstack⟩ := hm.callStack_of_callsNext hactivity hcalls
  have hframe : (c.advance i.opcode.size :: m.callStack) <:+ m.stepped.callStack :=
    hstack ▸ List.suffix_refl _
  exact ⟨i, back, hrest, hi, (hm.next hcalls.1).returns_of_leaves hframe h⟩

end Action.RunsCore

/-! ## Stepping over and out -/

namespace Debugger

variable {d : Debugger κ}

theorem stepOver_of_calls (h : d.machine.CallsNext) (limit : Nat) :
    (d.stepOver limit).answer =
        (runWhile (higherThan d.machine.depth) limit none d.stepInto.state).answer ∧
      (d.stepOver limit).state =
        (runWhile (higherThan d.machine.depth) limit none d.stepInto.state).state := by
  have hanswer : d.stepInto.answer = .ok .running := h.1
  have hdepth : d.machine.depth < d.stepInto.state.machine.depth := h.2
  simp only [stepOver, hanswer, hdepth, and_self, if_true]
  exact ⟨rfl, rfl⟩

theorem stepOver_of_not_calls (h : ¬d.machine.CallsNext) (limit : Nat) :
    (∀ offset, (d.stepOver limit).answer ≠ .stepped offset) ∧
      ((d.stepOver limit).answer = .stepLimit ↔
        (stepOnce.run d.machine).result = .ok .running) := by
  change _ ∧ (_ ↔ d.stepInto.answer = .ok .running)
  rcases hresult : d.stepInto.answer with e | outcome
  · simp only [stepOver, hresult]
    exact ⟨nofun, nofun, nofun⟩
  · have hplain : ¬(outcome = .running ∧ d.machine.depth < d.stepInto.state.machine.depth) :=
      fun hboth ↦ h ⟨hresult.trans (congrArg _ hboth.1), hboth.2⟩
    simp only [stepOver, hresult, if_neg hplain]
    cases outcome <;> simp [Stop.ofOutcome]

theorem stepOut_of_cons {place : Cursor} {stack : List Cursor}
    (h : d.machine.callStack = place :: stack) (limit : Nat) :
    d.stepOut limit =
      runWhile (higherThan stack.length) limit d.stoppedAt { d with stoppedAt := none } := by
  have hdepth : d.machine.depth = stack.length + 1 := by rw [Context.depth, h, List.length_cons]
  rw [stepOut, hdepth, if_neg (Nat.succ_ne_zero _)]
  rfl

end Debugger

omit [CommandSet κ] in
theorem Machine.offset_of_activity {m : Machine κ} {c : Cursor} (h : m.activity = .script c) :
    m.offset = c.offset := by
  rw [offset, Context.position?, h]
  rfl

/-- **Back to the return address.** Where stepping over is complete, the instruction stepped over is
a call, the script stands behind it, and the call stack is the one before. Where stepping out of a
subroutine is complete, the script stands at the return address that was on top of the call stack,
and the stack is what was below. -/
theorem stepping_lands_behind_call {d : Debugger κ} {c : Cursor}
    (hactivity : d.machine.activity = .script c) (htable : d.machine.table = .core) (limit : Nat) :
    (∀ offset, (d.stepOver limit).answer = .stepped offset →
      ∃ (i : Instruction) (back : List UInt8), c.rest = i.encode ++ back ∧ i.Calls ∧
        (d.stepOver limit).state.machine.activity = .script (c.advance i.opcode.size) ∧
        (d.stepOver limit).state.machine.callStack = d.machine.callStack ∧
        offset = c.offset + i.opcode.size) ∧
    (∀ place stack offset, d.machine.callStack = place :: stack →
      (d.stepOut limit).answer = .stepped offset →
        (d.stepOut limit).state.machine.activity = .script place ∧
        (d.stepOut limit).state.machine.callStack = stack ∧ offset = place.offset) := by
  have hmode : d.machine.mode = .normal := by rw [Context.mode, hactivity]; rfl
  constructor
  · intro offset hanswer
    have hcalls : d.machine.CallsNext := by
      by_contra hplain
      exact (Debugger.stepOver_of_not_calls hplain limit).1 offset hanswer
    have hm : RunsCore d.machine d.machine := .self (enabled_of_more hcalls.1) htable hmode
    obtain ⟨hsame, hstate⟩ := Debugger.stepOver_of_calls hcalls limit
    rw [hsame] at hanswer
    obtain ⟨units, -, hleaves, hlast, rfl⟩ :=
      ((Debugger.answer_runWhile _ limit none d.stepInto.state).2 offset _).mp ⟨hanswer, rfl⟩
    obtain ⟨i, back, hrest, hi, hback, hstack⟩ := hm.returns_of_callsNext hactivity hcalls hleaves
    rw [hstate, hlast]
    exact ⟨i, back, hrest, hi, hback, hstack, offset_of_activity hback⟩
  · intro place stack offset hstack hanswer
    have hframe : (place :: stack) <:+ d.machine.callStack := hstack ▸ List.suffix_refl _
    rw [Debugger.stepOut_of_cons hstack] at hanswer ⊢
    obtain ⟨units, -, hleaves, hlast, rfl⟩ :=
      ((Debugger.answer_runWhile _ limit d.stoppedAt _).2 offset _).mp ⟨hanswer, rfl⟩
    have hm : RunsCore d.machine d.machine := .self (enabled_of_more hleaves.more) htable hmode
    obtain ⟨hback, hstack⟩ := hm.returns_of_leaves hframe hleaves
    rw [hlast]
    exact ⟨hback, hstack, offset_of_activity hback⟩

/-- A call of the subroutine at offset 6, which calls itself unless bank 0 is one. -/
def recursiveScript : Script :=
  .ofBytes 0 [0x03, 0x06, 0x00, 0x00, 0x00, 0x01,
    0x08, 0x00, 0x01, 0x00, 0x00, 0x00, 0x05, 0x01, 0x1d, 0x00, 0x00, 0x00,
    0x07, 0x00, 0x01, 0x00, 0x00, 0x00, 0x03, 0x06, 0x00, 0x00, 0x00, 0x02]

/-- A debugger in front of the first call, having stopped at the breakpoint there. -/
def recursiveDebugger : Debugger Opcode :=
  { machine := (Action.run (.start recursiveScript .core) (.new "debug")).machine
    breakpoints := [0, 18], stoppedAt := some 0 }

/-- Stepping over the first call stops at the breakpoint in the subroutine. Stepping out from there
passes over the breakpoint, comes by the second call of the subroutine, and lands behind the first
one; and so does stepping over it without breakpoints. -/
theorem stepping_lands_behind_call_recursive :
    let whole := recursiveDebugger.clearBreakpoints.stepOver 20
    let inside := (recursiveDebugger.stepOver 20).state
    whole.answer = .stepped 5 ∧ whole.state.machine.activity = .script ⟨recursiveScript, 5⟩ ∧
      whole.state.machine.callStack = [] ∧
      inside.stoppedAt = some 18 ∧ (inside.stepOut 20).answer = .stepped 5 ∧
      (inside.stepOut 20).state.machine.activity = .script ⟨recursiveScript, 5⟩ ∧
      (inside.stepOut 20).state.machine.callStack = [] := by
  intro whole inside
  have hwhole : whole.answer = .stepped 5 := by decide +kernel
  have hinside : inside.machine.activity = .script ⟨recursiveScript, 18⟩ ∧
      inside.machine.table = .core ∧ inside.machine.callStack = [⟨recursiveScript, 5⟩] ∧
      inside.stoppedAt = some 18 := by decide +kernel
  have hout : (inside.stepOut 20).answer = .stepped 5 := by decide +kernel
  obtain ⟨i, -, -, -, hover, hstack, hsize⟩ := (stepping_lands_behind_call
    (d := recursiveDebugger.clearBreakpoints) (c := recursiveScript.start) rfl rfl 20).1 5 hwhole
  have hbehind : recursiveScript.start.advance i.opcode.size = ⟨recursiveScript, 5⟩ := by
    rw [Cursor.advance, ← hsize]
    rfl
  obtain ⟨hback, hrest, -⟩ :=
    (stepping_lands_behind_call hinside.1 hinside.2.1 20).2 _ _ 5 hinside.2.2.1 hout
  exact ⟨hwhole, hover.trans (congrArg _ hbehind), hstack, hinside.2.2.2, hout, hback, hrest⟩

/-! ## Complete or at the limit -/

/-- **What stepping over a call answers.** Unless the next instruction goes on without a call: if
the call is left again within the limit, with no breakpoint, suspension, halt or fault on the way,
the answer is that the step is complete, at the offset where the script then stands. And the answer
is that the limit was reached exactly if so many further units go on inside the call, which has not
returned after any of them. -/
theorem stepping_over_call_answers {d : Debugger κ} (henabled : d.machine.enabled = true)
    (hmode : d.machine.mode = .normal) (htable : d.machine.table = .core)
    (hplain : (stepOnce.run d.machine).result = .ok .running → d.machine.CallsNext) (limit : Nat) :
    (∀ units < limit, (stepOnce.run d.machine).result = .ok .running →
      d.machine.stepped.Leaves d.breakpoints (higherThan d.machine.depth) none units →
      ∃ place, (stepped^[units + 1] d.machine.stepped).activity = .script place ∧
        (d.stepOver limit).answer = .stepped place.offset ∧
        (d.stepOver limit).state.machine = stepped^[units + 1] d.machine.stepped) ∧
    ((d.stepOver limit).answer = .stepLimit ↔ d.machine.CallsNext ∧
      d.machine.stepped.Passes d.breakpoints (higherThan d.machine.depth) none limit) := by
  have hm : RunsCore d.machine d.machine := .self henabled htable hmode
  obtain ⟨c, hactivity⟩ := hm.exists_activity
  constructor
  · intro units hunits hmore hleaves
    obtain ⟨hsame, hstate⟩ := Debugger.stepOver_of_calls (hplain hmore) limit
    obtain ⟨i, -, -, -, hback, -⟩ := hm.returns_of_callsNext hactivity (hplain hmore) hleaves
    obtain ⟨hanswer, hmachine⟩ :=
      ((Debugger.answer_runWhile _ limit none d.stepInto.state).2 _ _).mpr
        ⟨units, hunits, hleaves, rfl, rfl⟩
    refine ⟨_, hback, ?_, ?_⟩
    · rw [hsame, ← offset_of_activity hback]
      exact hanswer
    · rw [hstate]
      exact hmachine
  · by_cases hcalls : d.machine.CallsNext
    · rw [(Debugger.stepOver_of_calls hcalls limit).1, and_iff_right hcalls]
      exact (Debugger.answer_runWhile _ limit none d.stepInto.state).1
    · rw [(Debugger.stepOver_of_not_calls hcalls limit).2]
      exact ⟨fun hmore ↦ absurd (hplain hmore) hcalls, fun hboth ↦ hboth.1.1⟩

/-- A call of the subroutine at offset 6, which loads a bank and returns. -/
def loadingDebugger : Debugger Opcode :=
  { machine := (Action.run (.start (.ofBytes 0 [0x03, 0x06, 0x00, 0x00, 0x00, 0x01,
      0x07, 0x03, 0x09, 0x00, 0x00, 0x00, 0x02]) .core) (.new "debug")).machine
    breakpoints := [0, 5] }

/-- The subroutine makes two units. With a limit of two the step over its call is complete, in spite
of the breakpoint behind the call, and with a limit of one it is not. -/
theorem stepping_over_call_answers_within :
    (loadingDebugger.stepOver 2).answer = .stepped 5 ∧
      (loadingDebugger.stepOver 2).state.machine.banks = #v[0, 0, 0, 9] ∧
      (loadingDebugger.stepOver 1).answer = .stepLimit := by
  have hcalls : loadingDebugger.machine.CallsNext := ⟨rfl, by decide⟩
  have hfirst : loadingDebugger.machine.stepped.GoesOn loadingDebugger.breakpoints none :=
    ⟨fun _ h ↦ (by cases h), rfl⟩
  have hsecond : loadingDebugger.machine.stepped.stepped.GoesOn loadingDebugger.breakpoints none :=
    ⟨fun _ h ↦ (by cases h), rfl⟩
  have hleaves : loadingDebugger.machine.stepped.Leaves loadingDebugger.breakpoints
      (higherThan loadingDebugger.machine.depth) none 1 :=
    leaves_succ_iff.mpr ⟨⟨hfirst, rfl⟩, leaves_zero_iff.mpr ⟨hsecond, rfl⟩⟩
  have hpasses : loadingDebugger.machine.stepped.Passes loadingDebugger.breakpoints
      (higherThan loadingDebugger.machine.depth) none 1 :=
    passes_succ_iff.mpr ⟨⟨hfirst, rfl⟩, fun _ hi ↦ absurd hi (Nat.not_lt_zero _)⟩
  obtain ⟨place, hplace, hanswer, hmachine⟩ :=
    (stepping_over_call_answers rfl rfl rfl (fun _ ↦ hcalls) 2).1 1 (by decide) rfl hleaves
  have hlimit := (stepping_over_call_answers rfl rfl rfl (fun _ ↦ hcalls) 1).2.mpr ⟨hcalls, hpasses⟩
  cases hplace
  exact ⟨hanswer, by rw [hmachine]; rfl, hlimit⟩

/-- A debugger in front of an instruction that makes no call. -/
def plainDebugger : Debugger Opcode :=
  { machine := (Action.run (.start (.ofBytes 0 [0x00, 0x00]) .core) (.new "debug")).machine }

/-- **Stepping over a plain instruction says that the limit was reached**, although the instruction
is complete, the script stands behind it at its starting depth, and no call was made. -/
theorem stepping_over_plain_says_limit :
    plainDebugger.machine.enabled = true ∧ plainDebugger.machine.mode = .normal ∧
      plainDebugger.machine.table = .core ∧
      (plainDebugger.stepOver 100).state.machine = plainDebugger.machine.stepped ∧
      plainDebugger.machine.stepped.activity = .script ⟨.ofBytes 0 [0x00, 0x00], 1⟩ ∧
      plainDebugger.machine.stepped.depth = plainDebugger.machine.depth ∧
      ¬plainDebugger.machine.CallsNext ∧
      (plainDebugger.stepOver 100).answer = .stepLimit :=
  ⟨rfl, rfl, rfl, rfl, rfl, rfl, fun h ↦ absurd h.2 (by decide), rfl⟩

end EventScript
