import Mathlib.Logic.Function.Iterate
import EventScript.Debugger

/-!
# Breakpoints

A debugger runs a machine unit by unit and stops before those at a breakpoint. This file compares a
debugging session with the plain run of the same machine, in which a host makes dispatch units one
after the other and resumes the script whenever it suspends.

## The account of a session

A session is a sequence of calls. Its account has a mark for every unit that is made and for every
breakpoint that is reported, in order. The plain run says what the account should be: a mark for
each unit, and right before it the report of the breakpoint at which the script then stands. The two
differ at most at the end, where the last call may have reported a breakpoint whose unit is still to
come.

What carries this from call to call is the place that the debugger remembers: it is a report already
made for a unit that is still to come, and the next call makes that unit without reporting again.
-/

namespace EventScript

variable {κ : Type}

/-- An entry in the account of a session. -/
inductive Mark where
  /-- A dispatch unit is made. -/
  | unit
  /-- A breakpoint is reported. -/
  | report (offset : Nat)
  deriving DecidableEq

/-! ## The plain run -/

namespace Machine

/-- The breakpoint at which the script is about to dispatch. -/
def breakpoint? (breakpoints : List Nat) (m : Machine κ) : Option Nat :=
  (m.position?.map Cursor.offset).filter fun offset ↦ offset ∈ breakpoints

variable [Handlers κ]

/-- The machine after one more unit, the host having resumed a script that suspended. -/
def next (m : Machine κ) : Machine κ :=
  match (Action.stepOnce.run m).result with
  | .ok .suspended => (Action.resume.run (Action.stepOnce.run m).machine).machine
  | _ => (Action.stepOnce.run m).machine

/-- The account that the first `count` units of the plain run call for. -/
def visits (breakpoints : List Nat) (count : Nat) (m : Machine κ) : List Mark :=
  (List.range count).flatMap fun i ↦
    ((next^[i] m).breakpoint? breakpoints).toList.map .report ++ [.unit]

variable {m : Machine κ}

theorem next_of_suspended (h : (Action.stepOnce.run m).result = .ok .suspended) :
    m.next = (Action.resume.run (Action.stepOnce.run m).machine).machine := by
  rw [next, h]

theorem next_of_ne (h : (Action.stepOnce.run m).result ≠ .ok .suspended) :
    m.next = (Action.stepOnce.run m).machine := by
  rw [next]
  split
  · exact absurd ‹_› h
  · rfl

theorem visits_add (breakpoints : List Nat) (i j : Nat) (m : Machine κ) :
    m.visits breakpoints (i + j) =
      m.visits breakpoints i ++ (next^[i] m).visits breakpoints j := by
  rw [visits, List.range_add, List.flatMap_append, List.flatMap_map]
  simp only [visits, Nat.add_comm i, Function.iterate_add_apply]

theorem visits_one (breakpoints : List Nat) (m : Machine κ) :
    m.visits breakpoints 1 = (m.breakpoint? breakpoints).toList.map .report ++ [.unit] := by
  rw [visits, List.range_one, List.flatMap_singleton, Function.iterate_zero_apply]

end Machine

/-! ## Sessions -/

/-- The report that an answer is, if it is one. -/
def Stop.marks : Stop → List Mark
  | breakpoint offset => [.report offset]
  | _ => []

/-- What a call came to. -/
structure Call where
  /-- The number of units made. -/
  units : Nat
  /-- The answer. -/
  answer : Stop

/-- The account of a call: its units, and then the breakpoint it stopped at. -/
def Call.marks (call : Call) : List Mark := List.replicate call.units .unit ++ call.answer.marks

theorem Call.count_marks (call : Call) : call.marks.count .unit = call.units := by
  have hreport : call.answer.marks.count .unit = 0 := by
    cases call.answer <;> rfl
  rw [marks, List.count_append, List.count_replicate_self, hreport, Nat.add_zero]

namespace Debugger

variable [Handlers κ]

/-- The number of units that `runWhile` makes. -/
def unitsWhile (keepGoing : Machine κ → Bool) :
    (limit : Nat) → (skip : Option Nat) → Debugger κ → Nat
  | 0, _, _ => 0
  | limit + 1, skip, d =>
    match d.hit?.filter fun offset ↦ skip ≠ some offset with
    | some _ => 0
    | none =>
      match d.stepInto.answer with
      | .ok .running =>
        if keepGoing d.stepInto.state.machine then
          unitsWhile keepGoing limit none d.stepInto.state + 1
        else 1
      | _ => 1

/-- What running up to the limit comes to. -/
def call (limit : Nat) (d : Debugger κ) : Call :=
  { units := unitsWhile (fun _ ↦ true) limit d.stoppedAt { d with stoppedAt := none }
    answer := (d.execute limit).answer }

/-- The debugger after such a call, the host having resumed a script that suspended. -/
def attended (limit : Nat) (d : Debugger κ) : Debugger κ :=
  let reply := d.execute limit
  if reply.answer = .suspended then (reply.state.act Action.resume).state else reply.state

/-- The calls of a session with the given limits. -/
def calls : (limits : List Nat) → Debugger κ → List Call
  | [], _ => []
  | limit :: limits, d => d.call limit :: (d.attended limit).calls limits

/-- The debugger after a session. -/
def afterCalls (limits : List Nat) (d : Debugger κ) : Debugger κ :=
  limits.foldl (fun d limit ↦ d.attended limit) d

/-- The account of a session. -/
def transcript (limits : List Nat) (d : Debugger κ) : List Mark :=
  (d.calls limits).flatMap Call.marks

/-! ## The courses of a run -/

section courses

variable {keepGoing : Machine κ → Bool} {skip : Option Nat} {d : Debugger κ}

theorem runWhile_of_hit (keepGoing : Machine κ → Bool) {offset : Nat}
    (h : (d.hit?.filter fun offset ↦ skip ≠ some offset) = some offset) (limit : Nat) :
    (runWhile keepGoing (limit + 1) skip d).answer = .breakpoint offset ∧
      (runWhile keepGoing (limit + 1) skip d).state = { d with stoppedAt := some offset } ∧
      unitsWhile keepGoing (limit + 1) skip d = 0 := by
  simp only [runWhile, unitsWhile, h, and_self]

theorem runWhile_of_more (h : (d.hit?.filter fun offset ↦ skip ≠ some offset) = none)
    (hmore : d.stepInto.answer = .ok .running) (hkeep : keepGoing d.stepInto.state.machine = true)
    (limit : Nat) :
    runWhile keepGoing (limit + 1) skip d =
        { runWhile keepGoing limit none d.stepInto.state with
          log := d.stepInto.log ++ (runWhile keepGoing limit none d.stepInto.state).log } ∧
      unitsWhile keepGoing (limit + 1) skip d =
        unitsWhile keepGoing limit none d.stepInto.state + 1 := by
  simp only [runWhile, unitsWhile, h, hmore, hkeep, if_true, and_self]

/-- The run is over after a unit. The answer tells a suspension from anything else; it reports no
breakpoint, and it is not that the limit was reached. -/
theorem runWhile_of_last (h : (d.hit?.filter fun offset ↦ skip ≠ some offset) = none)
    (hlast : ¬(d.stepInto.answer = .ok .running ∧ keepGoing d.stepInto.state.machine = true)) :
    ∃ answer : Stop, (answer = .suspended ↔ d.stepInto.answer = .ok .suspended) ∧
      answer.marks = [] ∧ answer ≠ .stepLimit ∧
      ∀ limit, runWhile keepGoing (limit + 1) skip d = ⟨answer, d.stepInto.state, d.stepInto.log⟩ ∧
        unitsWhile keepGoing (limit + 1) skip d = 1 := by
  rcases hanswer : d.stepInto.answer with e | _ | _ | _ | _
  · refine ⟨.fault e, by simp, rfl, nofun, fun limit ↦ ?_⟩
    simp only [runWhile, unitsWhile, h, hanswer, and_self]
  · refine ⟨.idle, by simp, rfl, nofun, fun limit ↦ ?_⟩
    simp only [runWhile, unitsWhile, h, hanswer, Stop.ofOutcome, and_self]
  · have hstop : ¬keepGoing d.stepInto.state.machine = true := fun hkeep ↦ hlast ⟨hanswer, hkeep⟩
    refine ⟨.stepped ((d.stepInto.state.machine.position?.map Cursor.offset).getD 0), by simp, rfl,
      nofun, fun limit ↦ ⟨?_, ?_⟩⟩
    · simp only [runWhile, h, hanswer, hstop, Bool.false_eq_true, if_false]
      cases d.stepInto.state.machine.position? <;> rfl
    · simp only [unitsWhile, h, hanswer, hstop, Bool.false_eq_true, if_false]
  · refine ⟨.suspended, by simp, rfl, nofun, fun limit ↦ ?_⟩
    simp only [runWhile, unitsWhile, h, hanswer, Stop.ofOutcome, and_self]
  · refine ⟨.halted, by simp, rfl, nofun, fun limit ↦ ?_⟩
    simp only [runWhile, unitsWhile, h, hanswer, Stop.ofOutcome, and_self]

end courses

/-- A run uses up its limit or is stopped before, and it does not come to a stop without having made
a unit or met a breakpoint. -/
theorem units_runWhile (keepGoing : Machine κ → Bool) (limit : Nat) (skip : Option Nat)
    (d : Debugger κ) :
    unitsWhile keepGoing limit skip d ≤ limit ∧
      ((runWhile keepGoing limit skip d).answer = .stepLimit →
        unitsWhile keepGoing limit skip d = limit) ∧
      (1 ≤ limit → 1 ≤ unitsWhile keepGoing limit skip d ∨
        ∃ offset, (runWhile keepGoing limit skip d).answer = .breakpoint offset) := by
  induction limit generalizing skip d with
  | zero => exact ⟨Nat.le_refl 0, fun _ ↦ rfl, fun h ↦ absurd h (by decide)⟩
  | succ limit ih =>
    rcases hstop : d.hit?.filter fun offset ↦ skip ≠ some offset with _ | offset
    · by_cases hmore : d.stepInto.answer = .ok .running ∧
          keepGoing d.stepInto.state.machine = true
      · obtain ⟨hrun, hunits⟩ := runWhile_of_more hstop hmore.1 hmore.2 limit
        obtain ⟨hle, hall, -⟩ := ih none d.stepInto.state
        rw [hrun, hunits]
        exact ⟨Nat.succ_le_succ hle, fun h ↦ congrArg (· + 1) (hall h), fun _ ↦
          .inl (Nat.succ_le_succ (Nat.zero_le _))⟩
      · obtain ⟨answer, -, -, hanswer, hrun⟩ := runWhile_of_last hstop hmore
        rw [(hrun limit).1, (hrun limit).2]
        exact ⟨Nat.succ_le_succ (Nat.zero_le _), fun h ↦ absurd h hanswer, fun _ ↦
          .inl (Nat.le_refl 1)⟩
    · obtain ⟨hanswer, -, hunits⟩ := runWhile_of_hit keepGoing hstop limit
      rw [hanswer, hunits]
      exact ⟨Nat.zero_le _, fun h ↦ absurd h (by simp), fun _ ↦ .inr ⟨offset, rfl⟩⟩

/-! ## One call -/

omit [Handlers κ] in
theorem hit?_eq (d : Debugger κ) : d.hit? = d.machine.breakpoint? d.breakpoints := by
  rw [hit?, Machine.breakpoint?]
  rcases d.machine.position? with _ | cursor
  · rfl
  · by_cases hmem : cursor.offset ∈ d.breakpoints
    · simp [hasBreakpoint, hmem, Option.filter]
    · simp [hasBreakpoint, hmem, Option.filter]

/-- What a run of the debugger comes to: so many units of the plain run, none but the first at a
breakpoint, and a stop at the breakpoint it reports. -/
structure Ran (skip : Option Nat) (d : Debugger κ) (units : Nat)
    (reply : Logged (Debugger κ) Stop) : Prop where
  /-- The machine is that of the plain run. -/
  machine : (if reply.answer = .suspended then (reply.state.act Action.resume).state
    else reply.state).machine = Machine.next^[units] d.machine
  /-- The breakpoints are as before. -/
  breakpoints : reply.state.breakpoints = d.breakpoints
  /-- The place remembered is the one reported. -/
  stoppedAt : reply.state.stoppedAt.toList.map .report = reply.answer.marks
  /-- The place reported is a breakpoint. -/
  hit : ∀ offset, reply.state.stoppedAt = some offset →
    (Machine.next^[units] d.machine).breakpoint? d.breakpoints = some offset
  /-- The units with the report that was made before are those of the plain run. -/
  visits : skip.toList.map .report ++ List.replicate units .unit =
    d.machine.visits d.breakpoints units

variable {keepGoing : Machine κ → Bool}

/-- **A run keeps the account**, provided that a breakpoint to skip is the one the machine stands at
and that there is a unit for it. -/
theorem ran_runWhile {limit : Nat} {skip : Option Nat} {d : Debugger κ} (hd : d.stoppedAt = none)
    (hskip : ∀ offset, skip = some offset →
      1 ≤ limit ∧ d.machine.breakpoint? d.breakpoints = some offset) :
    Ran skip d (unitsWhile keepGoing limit skip d) (runWhile keepGoing limit skip d) := by
  induction limit generalizing skip d with
  | zero =>
    have hnone : skip = none := Option.eq_none_iff_forall_ne_some.mpr fun offset h ↦
      absurd (hskip offset h).1 (by decide)
    subst hnone
    refine ⟨rfl, rfl, ?_, ?_, rfl⟩
    · rw [runWhile, hd]
      rfl
    · rw [runWhile, hd]
      nofun
  | succ limit ih =>
    rcases hstop : d.hit?.filter fun offset ↦ skip ≠ some offset with _ | offset
    · -- The first unit is at the breakpoint that was reported before, or at none.
      have hhere : skip = d.machine.breakpoint? d.breakpoints := by
        rcases skip with _ | offset
        · rw [hit?_eq] at hstop
          rcases hhit : d.machine.breakpoint? d.breakpoints with _ | offset
          · rfl
          · rw [hhit] at hstop
            cases hstop
        · exact (hskip offset rfl).2.symm
      have hfirst : skip.toList.map .report ++ [.unit] = d.machine.visits d.breakpoints 1 := by
        rw [Machine.visits_one, hhere]
      by_cases hmore : d.stepInto.answer = .ok .running ∧
          keepGoing d.stepInto.state.machine = true
      · have hnext : d.machine.next = d.stepInto.state.machine := by
          refine Machine.next_of_ne ?_
          rw [show (Action.stepOnce.run d.machine).result = .ok .running from hmore.1]
          nofun
        obtain ⟨hrun, hunits⟩ := runWhile_of_more hstop hmore.1 hmore.2 limit
        have hrest : Ran none d.stepInto.state _ _ := ih rfl nofun
        rw [hrun, hunits]
        refine ⟨?_, hrest.breakpoints, hrest.stoppedAt, ?_, ?_⟩
        · rw [Function.iterate_succ_apply, hnext]
          exact hrest.machine
        · rw [Function.iterate_succ_apply, hnext]
          exact hrest.hit
        · rw [Nat.add_comm, ← List.replicate_append_replicate, Machine.visits_add,
            Function.iterate_one, hnext, ← hfirst, List.append_assoc]
          exact congrArg _ (congrArg _ hrest.visits)
      · obtain ⟨answer, hsuspended, hmarks, -, hrun⟩ := runWhile_of_last hstop hmore
        rw [(hrun limit).1, (hrun limit).2]
        refine ⟨?_, rfl, hmarks.symm, nofun, hfirst⟩
        rw [Function.iterate_one]
        by_cases hanswer : answer = .suspended
        · rw [if_pos hanswer, Machine.next_of_suspended (hsuspended.mp hanswer)]
          rfl
        · rw [if_neg hanswer, Machine.next_of_ne fun h ↦ hanswer (hsuspended.mpr h)]
          rfl
    · obtain ⟨hhit, hskipped⟩ := Option.filter_eq_some_iff.mp hstop
      have hnone : skip = none := by
        rcases skip with _ | other
        · rfl
        · rw [hit?_eq, (hskip other rfl).2] at hhit
          cases hhit
          simp at hskipped
      obtain ⟨hanswer, hstate, hunits⟩ := runWhile_of_hit keepGoing hstop limit
      rw [hunits]
      refine ⟨?_, ?_, ?_, ?_, ?_⟩
      · rw [hanswer, hstate]
        rfl
      · rw [hstate]
      · rw [hanswer, hstate]
        rfl
      · rw [hstate]
        rintro _ ⟨⟩
        exact (hit?_eq d).symm.trans hhit
      · rw [hnone]
        rfl

/-! ## From call to call -/

/-- The place remembered, if any, is a breakpoint at which the machine stands. -/
def Standing (d : Debugger κ) : Prop :=
  ∀ offset, d.stoppedAt = some offset → d.machine.breakpoint? d.breakpoints = some offset

/-- The report already made for a unit that is still to come. -/
def owed (d : Debugger κ) : List Mark := d.stoppedAt.toList.map .report

/-- A call keeps the account: what was owed and what it adds are the units of the plain run and what
is owed next. -/
structure KeepsAccount (limit : Nat) (d : Debugger κ) : Prop where
  /-- The machine is that of the plain run. -/
  machine : (d.attended limit).machine = Machine.next^[(d.call limit).units] d.machine
  /-- The breakpoints are as before. -/
  breakpoints : (d.attended limit).breakpoints = d.breakpoints
  /-- What is owed next is what the call reported. -/
  owed : (d.attended limit).owed = (d.call limit).answer.marks
  /-- The machine stands at the place reported. -/
  standing : (d.attended limit).Standing
  /-- The account goes on from what was owed. -/
  marks : d.owed ++ (d.call limit).marks =
    d.machine.visits d.breakpoints (d.call limit).units ++ (d.attended limit).owed

theorem keepsAccount {limit : Nat} {d : Debugger κ} (hlimit : 1 ≤ limit) (hd : d.Standing) :
    KeepsAccount limit d := by
  have hran : Ran d.stoppedAt { d with stoppedAt := none } (d.call limit).units
      (d.execute limit) := ran_runWhile rfl fun offset h ↦ ⟨hlimit, hd offset h⟩
  have hstate : (d.attended limit).breakpoints = (d.execute limit).state.breakpoints ∧
      (d.attended limit).stoppedAt = (d.execute limit).state.stoppedAt := by
    rw [attended]
    split
    · exact ⟨rfl, rfl⟩
    · exact ⟨rfl, rfl⟩
  have hbreakpoints := hstate.1.trans hran.breakpoints
  have howed : (d.attended limit).owed = (d.call limit).answer.marks := by
    rw [owed, hstate.2]
    exact hran.stoppedAt
  refine ⟨hran.machine, hbreakpoints, howed, ?_, ?_⟩
  · intro offset h
    rw [hbreakpoints, show (d.attended limit).machine = _ from hran.machine]
    exact hran.hit offset (hstate.2.symm.trans h)
  · rw [howed, Call.marks, ← List.append_assoc]
    exact congrArg (· ++ _) hran.visits

theorem transcript_cons (limit : Nat) (limits : List Nat) (d : Debugger κ) :
    d.transcript (limit :: limits) =
      (d.call limit).marks ++ (d.attended limit).transcript limits := by
  rw [transcript, calls, List.flatMap_cons]
  rfl

/-- **A session keeps the account.** -/
theorem session_account {limits : List Nat} {d : Debugger κ}
    (hlimits : ∀ limit ∈ limits, 1 ≤ limit) (hd : d.Standing) :
    (d.afterCalls limits).machine =
        Machine.next^[(d.transcript limits).count .unit] d.machine ∧
      (d.afterCalls limits).breakpoints = d.breakpoints ∧ (d.afterCalls limits).Standing ∧
      d.owed ++ d.transcript limits =
        d.machine.visits d.breakpoints ((d.transcript limits).count .unit) ++
          (d.afterCalls limits).owed := by
  induction limits generalizing d with
  | nil => exact ⟨rfl, rfl, hd, List.append_nil _⟩
  | cons limit limits ih =>
    obtain ⟨hlimit, hrest⟩ := List.forall_mem_cons.mp hlimits
    have hcall := keepsAccount hlimit hd
    obtain ⟨hmachine, hbreakpoints, hstanding, haccount⟩ := ih hrest hcall.standing
    have hcount : (d.transcript (limit :: limits)).count .unit =
        (d.call limit).units + ((d.attended limit).transcript limits).count .unit := by
      rw [transcript_cons, List.count_append, Call.count_marks]
    rw [hcount]
    refine ⟨?_, hbreakpoints.trans hcall.breakpoints, hstanding, ?_⟩
    · rw [Nat.add_comm, Function.iterate_add_apply, ← hcall.machine]
      exact hmachine
    · calc d.owed ++ d.transcript (limit :: limits)
          = d.machine.visits d.breakpoints (d.call limit).units ++
              ((d.attended limit).owed ++ (d.attended limit).transcript limits) := by
            rw [transcript_cons, ← List.append_assoc, hcall.marks, List.append_assoc]
        _ = d.machine.visits d.breakpoints _ ++ (d.afterCalls (limit :: limits)).owed := by
            rw [haccount, hcall.machine, hcall.breakpoints, ← List.append_assoc,
              ← Machine.visits_add]
            rfl

theorem owed_afterCalls {limits : List Nat} {d : Debugger κ}
    (hlimits : ∀ limit ∈ limits, 1 ≤ limit) (hd : d.Standing) :
    (d.afterCalls limits).owed =
      ((d.calls limits).getLast?.map fun call ↦ call.answer.marks).getD d.owed := by
  induction limits generalizing d with
  | nil => rfl
  | cons limit limits ih =>
    obtain ⟨hlimit, hrest⟩ := List.forall_mem_cons.mp hlimits
    have hcall := keepsAccount hlimit hd
    have hlast : (d.afterCalls (limit :: limits)).owed = _ := ih hrest hcall.standing
    rw [hlast, hcall.owed, calls, List.getLast?_cons]
    rcases ((d.attended limit).calls limits).getLast? with _ | call
    · rfl
    · rfl

/-! ## One call is two -/

theorem execute_of_fresh {d : Debugger κ} (h : d.stoppedAt = none) (limit : Nat) :
    d.execute limit = runWhile (fun _ ↦ true) limit none d := by
  rcases d with ⟨machine, breakpoints, stoppedAt⟩
  subst h
  rfl

theorem runWhile_add {keepGoing : Machine κ → Bool} {limit : Nat} {skip : Option Nat}
    {d : Debugger κ} (hd : d.stoppedAt = none) (hskip : limit = 0 → skip = none)
    (h : (runWhile keepGoing limit skip d).answer = .stepLimit) (others : Nat) :
    (runWhile keepGoing limit skip d).state.stoppedAt = none ∧
      runWhile keepGoing (limit + others) skip d =
        { runWhile keepGoing others none (runWhile keepGoing limit skip d).state with
          log := (runWhile keepGoing limit skip d).log ++
            (runWhile keepGoing others none (runWhile keepGoing limit skip d).state).log } := by
  induction limit generalizing skip d with
  | zero =>
    rw [hskip rfl, Nat.zero_add]
    exact ⟨hd, rfl⟩
  | succ limit ih =>
    rw [Nat.add_right_comm]
    rcases hstop : d.hit?.filter fun offset ↦ skip ≠ some offset with _ | offset
    · by_cases hmore : d.stepInto.answer = .ok .running ∧
          keepGoing d.stepInto.state.machine = true
      · have hrun := fun limit ↦ (runWhile_of_more hstop hmore.1 hmore.2 limit).1
        rw [hrun limit] at h ⊢
        obtain ⟨hstopped, hwhole⟩ := ih (d := d.stepInto.state) rfl (fun _ ↦ rfl) h
        refine ⟨hstopped, ?_⟩
        rw [hrun, hwhole, List.append_assoc]
      · obtain ⟨answer, -, -, hanswer, hrun⟩ := runWhile_of_last hstop hmore
        rw [(hrun limit).1] at h
        exact absurd h hanswer
    · rw [(runWhile_of_hit keepGoing hstop limit).1] at h
      cases h

end Debugger

open Machine

/-- **Breakpoints are reported once each, and the run is the plain one.** After a session of a fresh
debugger the machine is that of the plain run after as many units as were made. The account is what
the plain run calls for, up to a report by the last call for the unit that comes next. A call makes
as many units as its limit says unless something stops it, and at least one unless that is a
breakpoint. And a call that reaches its limit, with another one after it, is one call with both
limits together. -/
theorem breakpoints_reported_once [Handlers κ] :
    (∀ (m : Machine κ) (breakpoints limits : List Nat), (∀ limit ∈ limits, 1 ≤ limit) →
      let d : Debugger κ := { machine := m, breakpoints := breakpoints }
      let count := (d.transcript limits).count .unit
      let last? := (d.calls limits).getLast?.map Call.answer
      (d.afterCalls limits).machine = next^[count] m ∧
        d.transcript limits = m.visits breakpoints count ++ (last?.map Stop.marks).getD [] ∧
        ∀ offset, last? = some (.breakpoint offset) →
          (next^[count] m).breakpoint? breakpoints = some offset) ∧
    (∀ (d : Debugger κ) (limit : Nat), (d.call limit).units ≤ limit ∧
      ((d.call limit).answer = .stepLimit → (d.call limit).units = limit) ∧
      (1 ≤ limit → 1 ≤ (d.call limit).units ∨
        ∃ offset, (d.call limit).answer = .breakpoint offset)) ∧
    (∀ (d : Debugger κ) (a b : Nat), 1 ≤ a → (d.execute a).answer = .stepLimit →
      d.execute (a + b) =
        { (d.execute a).state.execute b with
          log := (d.execute a).log ++ ((d.execute a).state.execute b).log }) := by
  refine ⟨?_, fun d limit ↦ ?_, ?_⟩
  · intro m breakpoints limits hlimits d count last?
    have hfresh : d.Standing := nofun
    obtain ⟨hmachine, hbreakpoints, hstanding, haccount⟩ :=
      Debugger.session_account hlimits hfresh
    have howed := Debugger.owed_afterCalls hlimits hfresh
    have hlast : (d.afterCalls limits).owed = (last?.map Stop.marks).getD [] := by
      rw [howed, Option.map_map]
      rfl
    refine ⟨hmachine, ?_, ?_⟩
    · rw [← hlast, ← haccount]
      rfl
    · intro offset h
      rw [h] at hlast
      have hstopped : (d.afterCalls limits).stoppedAt = some offset := by
        rw [Debugger.owed] at hlast
        rcases hstopped : (d.afterCalls limits).stoppedAt with _ | other
        · rw [hstopped] at hlast
          cases hlast
        · rw [hstopped] at hlast
          cases hlast
          rfl
      have hhit := hstanding offset hstopped
      rw [hmachine, hbreakpoints] at hhit
      exact hhit
  · exact Debugger.units_runWhile _ limit d.stoppedAt { d with stoppedAt := none }
  · intro d a b ha h
    obtain ⟨hstopped, hwhole⟩ := Debugger.runWhile_add (d := { d with stoppedAt := none }) rfl
      (fun hzero ↦ absurd ha (by omega)) h b
    have hothers := Debugger.execute_of_fresh (d := (d.execute a).state) hstopped b
    rw [hothers]
    exact hwhole

/-- A debugger on a script that waits on every turn of a loop, with breakpoints on both sides of the
wait. -/
def loopDebugger : Debugger Opcode :=
  { machine := (Action.run (.start (.ofBytes 0 [0x00, 0x0b, 0x04, 0x00, 0x00, 0x00, 0x00]) .core)
      (.new "primary")).machine
    breakpoints := [0, 2] }

/-- The session stops at the start, is resumed onto the second breakpoint, and ends a call right
before the first one comes round again. Having stopped at the start, a call with limit `1` makes its
unit, and the calls with limits `1` and `4` are the call with limit `5`. -/
theorem breakpoints_reported_once_looping :
    loopDebugger.transcript [1, 1, 1, 3, 1, 1] =
        [.report 0, .unit, .unit, .report 2, .unit, .report 0] ∧
      (loopDebugger.afterCalls [1, 1, 1, 3, 1, 1]).machine = next^[3] loopDebugger.machine ∧
      (next^[3] loopDebugger.machine).breakpoint? [0, 2] = some 0 ∧
      ((loopDebugger.attended 1).call 1).units = 1 ∧
      ((loopDebugger.attended 1).execute 5).answer = .suspended := by
  have hlimits : ∀ limit ∈ [1, 1, 1, 3, 1, 1], 1 ≤ limit := by decide
  obtain ⟨hsession, hunits, hsplit⟩ := breakpoints_reported_once (κ := Opcode)
  obtain ⟨hmachine, htranscript, hlast⟩ :=
    hsession loopDebugger.machine [0, 2] [1, 1, 1, 3, 1, 1] hlimits
  refine ⟨htranscript, hmachine, hlast 0 rfl, (hunits (loopDebugger.attended 1) 1).2.1 rfl, ?_⟩
  rw [hsplit (loopDebugger.attended 1) 1 4 (by decide) rfl]
  rfl

end EventScript
