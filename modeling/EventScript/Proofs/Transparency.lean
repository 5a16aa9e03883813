import Mathlib.Logic.Function.Iterate
import EventScript.Proofs.Batching
import EventScript.Proofs.Execution
import EventScript.Proofs.Frame
import EventScript.Proofs.HandOver

/-!
# Waiting is transparent

A script may wait: it suspends itself until the host resumes it, or it hands over to a native task
and is resumed when the task has finished. This file shows that a script cannot tell. A run in which
waiting commands wait and the host resumes the script each time goes through the same states, at its
dispatch units, as a run in which these commands read their operands and do nothing else.

## The comparison

The plain run is a function of the waiting one. A machine that waits is taken to be the machine that
will have been resumed, and any machine is looked at under the plain table; this is its `shadow`.
While the machine waits its shadow stands still, and what is left of the wait gets shorter. When it
does not wait, a unit of the machine is a unit of its shadow.
-/

namespace EventScript

variable {κ : Type} [CommandSet κ]

/-! ## The two ways to drive a machine -/

/-- What there is to see of a machine when an opcode is about to be dispatched. -/
structure Scene where
  /-- The place in the script. -/
  position : Cursor
  /-- The return addresses. -/
  callStack : List Cursor
  /-- The variable banks. -/
  banks : Vector UInt32 4
  /-- The result of the last comparison. -/
  comparison : UInt8
  /-- The temporary variables. -/
  temporaries : Temporaries
  /-- Whether the player may move. -/
  inputControl : Bool
  /-- The direction imposed on the player. -/
  direction : UInt8

/-- How a run ends. -/
inductive Ending where
  /-- The script is over. -/
  | halt
  /-- The script was stopped by a fault. -/
  | fault (e : Fault)

/-- The answer of the unit that ends a run. -/
def Ending.result : Ending → Except Fault StepOutcome
  | halt => .ok .halted
  | fault e => .error e

namespace Machine

/-- The machine after a dispatch unit. -/
def stepped (m : Machine κ) : Machine κ := (Action.stepOnce.run m).machine

/-- The machine after a dispatch unit, or after it was resumed if it is paused and has a script
parked. -/
def driven (m : Machine κ) : Machine κ :=
  match m.activity, m.parked with
  | .paused, some _ => (Action.resume.run m).machine
  | _, _ => m.stepped

/-- The scene, if the next thing is a dispatch unit. The unit that finds the script at its end is
one as well. -/
def scene? (m : Machine κ) : Option Scene :=
  m.position?.map fun position ↦
    { position
      callStack := m.callStack
      banks := m.banks
      comparison := m.comparison
      temporaries := m.temporaries
      inputControl := m.inputControl
      direction := m.direction }

/-- The scenes among the first `count` machines of a run. -/
def scenes (next : Machine κ → Machine κ) (count : Nat) (m : Machine κ) : List Scene :=
  (List.range count).filterMap fun i ↦ (next^[i] m).scene?

/-- The next unit ends the run: nothing goes on after it, and nothing is left to resume. -/
def EndsNow (m : Machine κ) (ending : Ending) : Prop :=
  (Action.stepOnce.run m).result = ending.result ∧ m.stepped.mode = .paused ∧
    m.stepped.parked = none

/-- The run comes to an end. -/
def Ends (next : Machine κ → Machine κ) (m : Machine κ) (ending : Ending) : Prop :=
  ∃ count, (next^[count] m).EndsNow ending

end Machine

/-! ## Machines that wait -/

namespace Machine

omit [CommandSet κ]

/-- The machine does not wait for anything: nothing is parked, and no native task is at work. -/
structure Poised (m : Machine κ) : Prop where
  /-- Nothing is parked. -/
  unparked : m.parked = none
  /-- There is no native task. -/
  scripted : m.mode ≠ .native

/-- The machine waits to go on from the cursor: it is paused, or a native task is at work that will
finish. -/
structure Waits (m : Machine κ) (c : Cursor) : Prop where
  /-- The cursor is parked. -/
  parked : m.parked = some c
  /-- The wait comes to an end. -/
  finite : m.activity = .paused ∨ ∃ pending, m.activity = .native ⟨some pending⟩

/-- The machine after the wait. -/
def released (m : Machine κ) (c : Cursor) : Machine κ :=
  { m with activity := .script c, parked := none }

/-- A machine that is switched on under the table. -/
structure Bound (t : CommandTable κ) (m : Machine κ) : Prop where
  /-- The table is bound. -/
  table : m.table = t
  /-- The machine is switched on. -/
  on : m.enabled = true

/-- Such a machine that can go on, at once or after a wait. -/
structure Hosted (t : CommandTable κ) (m : Machine κ) : Prop extends Bound t m where
  /-- It can go on. -/
  ready : m.Poised ∨ ∃ c, m.Waits c

/-- How much longer the machine waits. -/
def patience (m : Machine κ) : Nat :=
  match m.activity, m.parked with
  | .native ⟨some pending⟩, _ => pending + 2
  | .paused, some _ => 1
  | _, _ => 0

/-- The machine that will have been resumed, with its context changed. -/
def shadow (f : Context κ → Context κ) (m : Machine κ) : Machine κ :=
  (match m.parked with
    | some c => m.released c
    | none => m).changed f

theorem released_of_unparked {m : Machine κ} (h : m.parked = none) (activity : Activity)
    (c : Cursor) : released { m with activity := activity, parked := some c } c = m.movedTo c := by
  rcases m with ⟨context, temporaries⟩
  cases context
  cases h
  rfl

theorem Poised.shadow {m : Machine κ} (h : m.Poised) (f : Context κ → Context κ) :
    m.shadow f = m.changed f := by
  rw [Machine.shadow, h.unparked]

theorem Waits.shadow {m : Machine κ} {c : Cursor} (h : m.Waits c) (f : Context κ → Context κ) :
    m.shadow f = (m.released c).changed f := by
  rw [Machine.shadow, h.parked]

end Machine

/-! ## One unit of either machine -/

/-- The replies to a dispatch unit of a machine and of its shadow. -/
inductive Matched (t : CommandTable κ) (f : Context κ → Context κ)
    (reply reply' : Reply κ StepOutcome) : Prop where
  /-- Both do the same. -/
  | alike : reply.machine.Bound t → reply.machine.Poised → reply'.result = reply.result →
      reply'.machine = reply.machine.changed f → Matched t f reply reply'
  /-- The machine waits, and its shadow goes on. -/
  | apart {outcome : StepOutcome} {c : Cursor} : reply.machine.Bound t → reply.machine.Waits c →
      reply.result = .ok outcome → reply'.result = .ok .running →
      reply'.machine = (reply.machine.released c).changed f → Matched t f reply reply'

namespace Matched

omit [CommandSet κ]

variable {t t' : CommandTable κ} {policy : Policy} {budget : Nat}
  {reply reply' : Reply κ StepOutcome}

theorem of_parked {f : Context κ → Context κ} {m : Machine κ} {activity : Activity} {c : Cursor}
    {outcome : StepOutcome} (hm : m.Bound t) (hparked : m.parked = none)
    (hfinite : activity = .paused ∨ ∃ pending, activity = .native ⟨some pending⟩)
    (hresult : reply.result = .ok outcome)
    (hmachine : reply.machine = { m with activity := activity, parked := some c })
    (hresult' : reply'.result = .ok .running)
    (hmachine' : reply'.machine = (m.movedTo c).changed f) : Matched t f reply reply' := by
  refine .apart (c := c) ?_ ?_ hresult hresult' ?_
  · rw [hmachine]
    exact ⟨hm.table, hm.on⟩
  · rw [hmachine]
    exact ⟨rfl, hfinite⟩
  · rw [hmachine', hmachine, Machine.released_of_unparked hparked]

theorem hosted {f : Context κ → Context κ} (h : Matched t f reply reply') :
    reply.machine.Hosted t := by
  rcases h with ⟨hbound, hpoised, -⟩ | ⟨hbound, hwaits, -⟩
  · exact ⟨hbound, .inl hpoised⟩
  · exact ⟨hbound, .inr ⟨_, hwaits⟩⟩

theorem shadow {f : Context κ → Context κ} (h : Matched t f reply reply') :
    reply'.machine = reply.machine.shadow f := by
  rcases h with ⟨-, hpoised, -, hmachine⟩ | ⟨-, hwaits, -, -, hmachine⟩
  · rw [hmachine, hpoised.shadow]
  · rw [hmachine, hwaits.shadow]

/-- What the machines report is not compared. -/
theorem of_reports {f : Context κ → Context κ} {events events' : List Event}
    (h : Matched t f reply reply') :
    Matched t f { reply with events := events } { reply' with events := events' } := by
  rcases h with ⟨hbound, hpoised, hresult, hmachine⟩ | ⟨hbound, hwaits, hok, hok', hmachine⟩
  · exact .alike hbound hpoised hresult hmachine
  · exact .apart hbound hwaits hok hok' hmachine

theorem catching {a a' : Action κ StepOutcome} {m m' : Machine κ}
    (h : Matched t (Context.refit (fun _ ↦ t') policy budget) (a.run m) (a'.run m')) :
    Matched t (Context.refit (fun _ ↦ t') policy budget) ((Action.catching a).run m)
      ((Action.catching a').run m') := by
  rcases h with ⟨hbound, hpoised, hresult, hmachine⟩ | ⟨hbound, hwaits, hok, hok', hmachine⟩
  · rcases hanswer : (a.run m).result with e | outcome
    · rw [Action.run_catching_of_error hanswer,
        Action.run_catching_of_error (hresult.trans hanswer)]
      refine .alike ⟨hbound.table, hbound.on⟩ ⟨rfl, nofun⟩ rfl ?_
      rw [hmachine]
      rfl
    · rw [Action.run_catching_of_ok hanswer, Action.run_catching_of_ok (hresult.trans hanswer)]
      exact .alike hbound hpoised hresult hmachine
  · rw [Action.run_catching_of_ok hok, Action.run_catching_of_ok hok']
    exact .apart hbound hwaits hok hok' hmachine

theorem ends_iff (h : Matched t (Context.refit (fun _ ↦ t') policy budget) reply reply')
    (ending : Ending) :
    (reply.result = ending.result ∧ reply.machine.mode = .paused ∧ reply.machine.parked = none) ↔
      (reply'.result = ending.result ∧ reply'.machine.mode = .paused ∧
        reply'.machine.parked = none) := by
  rcases h with ⟨-, -, hresult, hmachine⟩ | ⟨-, hwaits, -, hok', hmachine⟩
  · rw [hresult, hmachine]
    rfl
  · constructor
    · rintro ⟨-, -, hparked⟩
      rw [hwaits.parked] at hparked
      cases hparked
    · rintro ⟨hresult, -⟩
      rw [hok'] at hresult
      cases ending <;> cases hresult

end Matched

/-! ## The units of a machine and of its shadow -/

omit [CommandSet κ] in
theorem Request.Ordinary.preserves_unparked {r : Request κ} (hr : r.Ordinary) :
    Action.Preserves (fun m : Machine κ ↦ m.parked = none) r.perform := by
  intro m hm
  by_cases htouched : .parked ∈ r.touched
  · cases r with
    | stop => rfl
    | start _ _ | startNative _ | resume | runNative _ => exact hr.elim
    | _ => simp [touched] at htouched
  · have hsame : (r.perform.run m).machine.parked = m.parked := agreeIn htouched m
    rw [hsame]
    exact hm

section units

open EventScript.Action Machine

variable {t t' : CommandTable κ} {policy : Policy} {budget : Nat} {m : Machine κ}

theorem matched_core {op : Opcode} (hop : op ≠ .wait) (hm : m.Bound t) (hpoised : m.Poised) :
    Matched t (Context.refit (fun _ ↦ t') policy budget)
      ((heeding (Handlers.handle (CommandSet.core op))).run m)
      ((heeding (Handlers.handle (CommandSet.core op))).run
        (m.changed (Context.refit (fun _ ↦ t') policy budget))) := by
  have hfollows : Follows m ((Handlers.handle (CommandSet.core op)).run m).machine := by
    rw [CoreHandlers.handle_core]
    exact Program.preserves_of_all (Command.all_core op)
      (fun _ hr ↦ Request.Ordinary.preserves_follows hr) m ⟨.refl m, hpoised.scripted⟩
  have hunparked : ((Handlers.handle (CommandSet.core op)).run m).machine.parked = none := by
    rw [CoreHandlers.handle_core]
    exact Program.preserves_of_all (Command.all_core op)
      (fun _ hr ↦ Request.Ordinary.preserves_unparked hr) m hpoised.unparked
  -- Since the verdict is to proceed, the machine is left as the command leaves it.
  have hsame : ((heeding (Handlers.handle (CommandSet.core op))).run m).machine =
      ((Handlers.handle (CommandSet.core op)).run m).machine := by
    rcases hresult : ((Handlers.handle (CommandSet.core op)).run m).result with e | verdict
    · rw [run_heeding_of_error hresult]
    · have hproceed : verdict = .proceed := by
        rw [CoreHandlers.handle_core] at hresult
        exact Program.of_yields (Command.yields_core hop) hresult
      rw [run_heeding_of_proceed (hproceed ▸ hresult)]
  rw [run_heeding_changed (run_handle_core_changed (fun _ ↦ t') policy budget op m)]
  refine .alike ?_ ?_ rfl rfl
  · rw [hsame]
    exact ⟨hfollows.table.trans hm.table, hfollows.enabled.trans hm.on⟩
  · rw [hsame]
    exact ⟨hunparked, hfollows.scripted⟩

/-- The command that waits parks the script, and doing nothing goes on with it. -/
theorem matched_wait (c : Cursor) (hm : m.Bound t) (hparked : m.parked = none) :
    Matched t (Context.refit (fun _ ↦ t') policy budget)
      ((heeding (Handlers.handle (CommandSet.core .wait))).run (m.movedTo c))
      ((heeding (Handlers.handle (CommandSet.core .nop))).run
        ((m.movedTo c).changed (Context.refit (fun _ ↦ t') policy budget))) := by
  rw [CoreHandlers.handle_core, CoreHandlers.handle_core]
  exact .of_parked hm hparked (.inl rfl) rfl rfl rfl rfl

/-- A command that hands over parks the script behind its operands, and only reading them goes on
from there. -/
theorem matched_handOff (h : HandOff κ) (c : Cursor) (hm : m.Bound t) (hparked : m.parked = none) :
    Matched t (Context.refit (fun _ ↦ t') policy budget)
      ((heeding (Handlers.handle h.command)).run (m.movedTo c))
      ((heeding (Handlers.handle h.plain)).run
        ((m.movedTo c).changed (Context.refit (fun _ ↦ t') policy budget))) := by
  let n : Machine κ := m.changed (Context.refit (fun _ ↦ t') policy budget)
  change Matched t _ _ ((heeding (Handlers.handle h.plain)).run (n.movedTo c))
  obtain ⟨pending, verdict, hcommand⟩ := h.hands_over m c
  have hplain := h.reads n c
  obtain ⟨result, c', hskip⟩ := run_skipAll (κ := κ) h.operands c
  rw [run_bind, hskip] at hcommand hplain
  rcases result with e | _
  · rw [run_heeding_of_error (congrArg Reply.result hcommand),
      run_heeding_of_error (congrArg Reply.result hplain), hcommand, hplain]
    exact .alike ⟨hm.table, hm.on⟩ ⟨hparked, nofun⟩ rfl rfl
  · let handed : Machine κ := { m with activity := .native ⟨some pending⟩, parked := some c' }
    -- Whether the verdict is to suspend makes no difference: the native task has had its way.
    have hheeded : (heeding (Handlers.handle h.command)).run (m.movedTo c) =
        ⟨.ok .running, handed, []⟩ := by
      rcases verdict with _ | _
      · rw [run_heeding_of_proceed (congrArg Reply.result hcommand), hcommand]
        rfl
      · rw [run_heeding_of_suspend (congrArg Reply.result hcommand), hcommand]
        rfl
    rw [hheeded, run_heeding_of_proceed (congrArg Reply.result hplain), hplain]
    exact .of_parked hm hparked (.inr ⟨pending, rfl⟩) rfl rfl rfl rfl

theorem matched_dispatch {name name' : String} {handOffs : List (HandOff κ)} (c : Cursor)
    (hm : m.Bound (waitingTable name handOffs)) (hparked : m.parked = none) :
    Matched (waitingTable name handOffs)
      (Context.refit (fun _ ↦ plainTable name' handOffs) policy budget)
      (dispatch.run (m.movedTo c))
      (dispatch.run ((m.movedTo c).changed
        (Context.refit (fun _ ↦ plainTable name' handOffs) policy budget))) := by
  let n : Machine κ := m.changed (Context.refit (fun _ ↦ plainTable name' handOffs) policy budget)
  change Matched _ _ _ (dispatch.run (n.movedTo c))
  rcases hrest : c.rest with _ | ⟨opcode, back⟩
  · rw [run_dispatch_of_atEnd hrest, run_dispatch_of_atEnd hrest]
    exact .alike ⟨hm.table, hm.on⟩ ⟨rfl, nofun⟩ rfl rfl
  · have hfetched : (m.movedTo (c.advance 1)).Poised := ⟨hparked, nofun⟩
    have hbound : (m.movedTo (c.advance 1)).Bound (waitingTable name handOffs) :=
      ⟨hm.table, hm.on⟩
    rcases (corresponds name name' handOffs).lookup opcode with
      ⟨kind, hlookup, hlookup'⟩ | ⟨command, command', hlookup, hlookup', hcounterpart⟩
    · rw [run_dispatch_of_error hrest (by rw [hm.table]; exact hlookup),
        run_dispatch_of_error hrest (m := n) hlookup']
      exact .alike hbound hfetched rfl rfl
    · rw [run_dispatch_of_command hrest (by rw [hm.table]; exact hlookup),
        run_dispatch_of_command hrest (m := n) hlookup']
      refine .of_reports ?_
      rcases hcounterpart with hop | _ | handOff
      · exact matched_core hop hbound hfetched
      · exact matched_wait (c.advance 1) hm hparked
      · exact matched_handOff handOff (c.advance 1) hm hparked

/-- **A unit of a machine that does not wait is a unit of its shadow.** -/
theorem matched_stepOnce {name name' : String} {handOffs : List (HandOff κ)}
    (hm : m.Bound (waitingTable name handOffs)) (hpoised : m.Poised) :
    Matched (waitingTable name handOffs)
      (Context.refit (fun _ ↦ plainTable name' handOffs) policy budget)
      (stepOnce.run m)
      (stepOnce.run (m.shadow
        (Context.refit (fun _ ↦ plainTable name' handOffs) policy budget))) := by
  rw [hpoised.shadow]
  rcases hactivity : m.activity with _ | c | task
  · rw [stepOnce, run_stepUpTo_of_paused hactivity, run_stepUpTo_of_paused (by exact hactivity)]
    exact .alike hm hpoised rfl rfl
  · have hmode : m.mode = .normal := congrArg Activity.mode hactivity
    rw [run_stepOnce hm.on hmode, run_stepOnce (by exact hm.on) (by exact hmode)]
    have hunit : Matched (waitingTable name handOffs)
        (Context.refit (fun _ ↦ plainTable name' handOffs) policy budget) _ _ :=
      matched_dispatch c hm hpoised.unparked
    rw [movedTo_of_activity hactivity] at hunit
    exact hunit.catching
  · exact absurd (congrArg Activity.mode hactivity) hpoised.scripted

end units

/-! ## Waiting -/

namespace Machine

open EventScript.Action

variable {t : CommandTable κ} {f : Context κ → Context κ} {m : Machine κ} {c : Cursor}

theorem Poised.driven (h : m.Poised) : m.driven = m.stepped := by
  rw [Machine.driven, h.unparked]
  split
  · cases ‹none = some _›
  · rfl

/-- What becomes of a machine that waits: it is resumed, or it asks the task, which has finished or
has one more answer behind it. -/
theorem Waits.driven_cases (h : m.Waits c) (hon : m.enabled = true) :
    (m.activity = .paused ∧ m.driven = m.released c) ∨
    (m.activity = .native ⟨some 0⟩ ∧ m.driven = m.stepped ∧
      m.stepped = { m with activity := .paused }) ∨
    ∃ pending, m.activity = .native ⟨some (pending + 1)⟩ ∧ m.driven = m.stepped ∧
      m.stepped = { m with activity := .native ⟨some pending⟩ } := by
  rcases h.finite with hactivity | ⟨_ | pending, hactivity⟩
  · refine .inl ⟨hactivity, ?_⟩
    rw [Machine.driven, hactivity, h.parked, resume]
    dsimp only
    rw [if_neg (by rw [hon]; decide), hactivity, h.parked]
    rfl
  · refine .inr (.inl ⟨hactivity, ?_, ?_⟩)
    · rw [Machine.driven, hactivity]
    · rw [stepped, stepOnce, run_stepUpTo_of_native hon hactivity]
      rfl
  · refine .inr (.inr ⟨pending, hactivity, ?_, ?_⟩)
    · rw [Machine.driven, hactivity]
    · rw [stepped, stepOnce, run_stepUpTo_of_native hon hactivity]
      rfl

/-- **A machine that waits has less to wait for next**, and its shadow stands still. -/
theorem Waits.driven (h : m.Waits c) (hm : m.Hosted t) :
    m.driven.Hosted t ∧ m.driven.shadow f = m.shadow f ∧ m.driven.patience < m.patience := by
  have hshadow : ∀ activity : Activity,
      Machine.shadow f { m with activity := activity } = m.shadow f := by
    intro activity
    rw [h.shadow, Machine.shadow]
    simp only [h.parked]
    rfl
  rcases h.driven_cases hm.on with ⟨hactivity, hdriven⟩ | ⟨hactivity, hdriven, hstepped⟩ |
    ⟨pending, hactivity, hdriven, hstepped⟩
  · have hpoised : (m.released c).Poised := ⟨rfl, nofun⟩
    rw [hdriven]
    refine ⟨⟨⟨hm.table, hm.on⟩, .inl hpoised⟩, ?_, ?_⟩
    · rw [hpoised.shadow, h.shadow]
    · rw [patience, patience, hactivity, h.parked]
      exact Nat.one_pos
  · rw [hdriven, hstepped]
    refine ⟨⟨⟨hm.table, hm.on⟩, .inr ⟨c, h.parked, .inl rfl⟩⟩, hshadow _, ?_⟩
    rw [patience, patience, hactivity, h.parked]
    exact Nat.one_lt_two
  · rw [hdriven, hstepped]
    refine ⟨⟨⟨hm.table, hm.on⟩, .inr ⟨c, h.parked, .inr ⟨pending, rfl⟩⟩⟩, hshadow _, ?_⟩
    rw [patience, patience, hactivity]
    exact Nat.lt_succ_self _

omit [CommandSet κ] in
theorem Waits.scene? (h : m.Waits c) : m.scene? = none := by
  rcases h.finite with hactivity | ⟨pending, hactivity⟩
  · rw [Machine.scene?, Context.position?, hactivity]
    rfl
  · rw [Machine.scene?, Context.position?, hactivity]
    rfl

theorem Waits.not_endsNow (h : m.Waits c) (hon : m.enabled = true) (ending : Ending) :
    ¬m.EndsNow ending := by
  rintro ⟨hresult, -, hparked⟩
  rcases h.driven_cases hon with ⟨hactivity, -⟩ | ⟨-, -, hstepped⟩ | ⟨pending, -, -, hstepped⟩
  · rw [stepOnce, run_stepUpTo_of_paused hactivity] at hresult
    cases ending <;> cases hresult
  · rw [hstepped] at hparked
    cases h.parked.symm.trans hparked
  · rw [hstepped] at hparked
    cases h.parked.symm.trans hparked

/-! ## Whole runs -/

omit [CommandSet κ] in
theorem scenes_add (next : Machine κ → Machine κ) (i j : Nat) (m : Machine κ) :
    m.scenes next (i + j) = m.scenes next i ++ (next^[i] m).scenes next j := by
  rw [scenes, List.range_add, List.filterMap_append, List.filterMap_map]
  simp only [scenes, Nat.add_comm i, Function.comp_def, Function.iterate_add_apply]

omit [CommandSet κ] in
theorem scenes_one (next : Machine κ → Machine κ) (m : Machine κ) :
    m.scenes next 1 = m.scene?.toList := by
  rw [scenes, List.range_one]
  cases hscene : m.scene? <;> simp [hscene]

/-- The machine is led to another one in `i` steps, and meanwhile its shadow makes `k` units; both
go through the same scenes. -/
structure Leads (t : CommandTable κ) (f : Context κ → Context κ) (i k : Nat) (m m' : Machine κ) :
    Prop where
  /-- The machine is led there. -/
  machine : Machine.driven^[i] m = m'
  /-- It can go on from there. -/
  hosted : m'.Hosted t
  /-- The shadow comes along. -/
  shadow : stepped^[k] (m.shadow f) = m'.shadow f
  /-- The scenes are the same. -/
  scenes : m.scenes Machine.driven i = (m.shadow f).scenes stepped k

theorem Leads.refl (hm : m.Hosted t) : Leads t f 0 0 m m := ⟨rfl, hm, rfl, rfl⟩

theorem Leads.trans {i k i' k' : Nat} {m' m'' : Machine κ} (h : Leads t f i k m m')
    (h' : Leads t f i' k' m' m'') : Leads t f (i + i') (k + k') m m'' where
  machine := by rw [Nat.add_comm, Function.iterate_add_apply, h.machine, h'.machine]
  hosted := h'.hosted
  shadow := by rw [Nat.add_comm, Function.iterate_add_apply, h.shadow, h'.shadow]
  scenes := by rw [scenes_add, scenes_add, h.machine, h.shadow, h.scenes, h'.scenes]

theorem Waits.leads (h : m.Waits c) (hm : m.Hosted t) : Leads t f 1 0 m m.driven := by
  obtain ⟨hhosted, hshadow, -⟩ := h.driven (f := f) hm
  refine ⟨rfl, hhosted, hshadow.symm, ?_⟩
  rw [scenes_one, h.scene?]
  rfl

/-- Every wait comes to an end. -/
theorem Hosted.exists_poised (hm : m.Hosted t) :
    ∃ i m', Leads t f i 0 m m' ∧ m'.Poised := by
  generalize hpatience : m.patience = patience
  induction patience using Nat.strongRecOn generalizing m with
  | _ patience ih =>
    rcases hm.ready with hpoised | ⟨c, hwaits⟩
    · exact ⟨0, m, .refl hm, hpoised⟩
    · obtain ⟨hhosted, -, hless⟩ := hwaits.driven (f := f) hm
      obtain ⟨i, m', hleads, hpoised⟩ := ih _ (hpatience ▸ hless) hhosted rfl
      exact ⟨1 + i, m', (hwaits.leads hm).trans hleads, hpoised⟩

end Machine

/-- Under the table, a unit of a machine that does not wait is a unit of its shadow. -/
def Shadowed (t : CommandTable κ) (f : Context κ → Context κ) : Prop :=
  ∀ m : Machine κ, m.Bound t → m.Poised →
    Matched t f (Action.stepOnce.run m) (Action.stepOnce.run (m.shadow f))

namespace Shadowed

open Machine

variable {t t' : CommandTable κ} {policy : Policy} {budget : Nat} {m : Machine κ}

theorem leads (h : Shadowed t (Context.refit (fun _ ↦ t') policy budget)) (hm : m.Hosted t)
    (hpoised : m.Poised) :
    Leads t (Context.refit (fun _ ↦ t') policy budget) 1 1 m m.driven := by
  have hunit := h m hm.toBound hpoised
  rw [hpoised.driven]
  refine ⟨?_, hunit.hosted, hunit.shadow, ?_⟩
  · rw [Function.iterate_one, hpoised.driven]
  · rw [scenes_one, scenes_one, hpoised.shadow]
    rfl

/-- Wherever the machine is led, its shadow comes along. -/
theorem forward (h : Shadowed t (Context.refit (fun _ ↦ t') policy budget)) (hm : m.Hosted t)
    (i : Nat) :
    ∃ k, Leads t (Context.refit (fun _ ↦ t') policy budget) i k m (driven^[i] m) := by
  induction i generalizing m with
  | zero => exact ⟨0, .refl hm⟩
  | succ i ih =>
    rw [Function.iterate_succ_apply, Nat.add_comm]
    rcases hm.ready with hpoised | ⟨c, hwaits⟩
    · have hfirst := h.leads hm hpoised
      obtain ⟨k, hrest⟩ := ih hfirst.hosted
      exact ⟨1 + k, hfirst.trans hrest⟩
    · have hfirst : Leads t (Context.refit (fun _ ↦ t') policy budget) 1 0 m m.driven :=
        hwaits.leads hm
      obtain ⟨k, hrest⟩ := ih hfirst.hosted
      exact ⟨0 + k, hfirst.trans hrest⟩

/-- Wherever the shadow goes, the machine can be led there, so that it waits no more. -/
theorem backward (h : Shadowed t (Context.refit (fun _ ↦ t') policy budget)) (hm : m.Hosted t)
    (k : Nat) :
    ∃ i m', Leads t (Context.refit (fun _ ↦ t') policy budget) i k m m' ∧ m'.Poised := by
  induction k with
  | zero => exact hm.exists_poised
  | succ k ih =>
    obtain ⟨i, m', hleads, hpoised⟩ := ih
    have hunit := h.leads hleads.hosted hpoised
    obtain ⟨j, m'', hwait, hpoised'⟩ := hunit.hosted.exists_poised
    exact ⟨i + 1 + j, m'', (hleads.trans hunit).trans hwait, hpoised'⟩

theorem endsNow_iff (h : Shadowed t (Context.refit (fun _ ↦ t') policy budget)) (hm : m.Hosted t)
    (hpoised : m.Poised) (ending : Ending) :
    m.EndsNow ending ↔ (m.shadow (Context.refit (fun _ ↦ t') policy budget)).EndsNow ending :=
  (h m hm.toBound hpoised).ends_iff ending

/-- **The run of the machine and that of its shadow end alike.** -/
theorem ends_iff (h : Shadowed t (Context.refit (fun _ ↦ t') policy budget)) (hm : m.Hosted t)
    (ending : Ending) :
    m.Ends driven ending ↔
      (m.shadow (Context.refit (fun _ ↦ t') policy budget)).Ends stepped ending := by
  constructor
  · rintro ⟨i, hends⟩
    obtain ⟨k, hleads⟩ := h.forward hm i
    rcases hleads.hosted.ready with hpoised | ⟨c, hwaits⟩
    · refine ⟨k, ?_⟩
      rw [hleads.shadow]
      exact (h.endsNow_iff hleads.hosted hpoised ending).mp hends
    · exact absurd hends (hwaits.not_endsNow hleads.hosted.on ending)
  · rintro ⟨k, hends⟩
    obtain ⟨i, m', hleads, hpoised⟩ := h.backward hm k
    refine ⟨i, ?_⟩
    rw [hleads.shadow] at hends
    rw [hleads.machine]
    exact (h.endsNow_iff hleads.hosted hpoised ending).mpr hends

end Shadowed

open Machine in
/-- **Waiting is transparent.** A script is started under the core table extended with commands that
hand over, and driven with units and resumptions; and it is started under the table in which no
command waits, and driven with units alone. Both runs go through the same scenes, and one ends if
and only if the other does, in the same way. -/
theorem waiting_transparent (handOffs : List (HandOff κ)) (name name' : String) (script : Script)
    (m : Machine κ) (h : m.enabled = true) :
    let waiting := m.begun script (waitingTable name handOffs)
    let plain := m.begun script (plainTable name' handOffs)
    (∀ i, ∃ k, waiting.scenes driven i = plain.scenes stepped k) ∧
      (∀ k, ∃ i, waiting.scenes driven i = plain.scenes stepped k) ∧
      ∀ ending, waiting.Ends driven ending ↔ plain.Ends stepped ending := by
  intro waiting plain
  have hunits : Shadowed (waitingTable name handOffs)
      (Context.refit (fun _ ↦ plainTable name' handOffs) m.policy m.budget) :=
    fun _ hm hpoised ↦ matched_stepOnce hm hpoised
  have hwaiting : waiting = _ := begun_eq h script (waitingTable name handOffs)
  have hpoised : waiting.Poised := by
    rw [hwaiting]
    exact ⟨rfl, nofun⟩
  have hhosted : waiting.Hosted (waitingTable name handOffs) := by
    refine ⟨?_, .inl hpoised⟩
    rw [hwaiting]
    exact ⟨rfl, h⟩
  have hplain : waiting.shadow
      (Context.refit (fun _ ↦ plainTable name' handOffs) m.policy m.budget) = plain := by
    rw [hpoised.shadow, hwaiting]
    exact (begun_eq h script (plainTable name' handOffs)).symm
  refine ⟨fun i ↦ ?_, fun k ↦ ?_, fun ending ↦ ?_⟩
  · obtain ⟨k, hleads⟩ := hunits.forward hhosted i
    rw [← hplain]
    exact ⟨k, hleads.scenes⟩
  · obtain ⟨i, _, hleads, -⟩ := hunits.backward hhosted k
    rw [← hplain]
    exact ⟨i, hleads.scenes⟩
  · rw [hunits.ends_iff hhosted, hplain]

/-! ## A script that waits twice -/

/-- The core commands, one that hands over to a task with as many pending answers as its operand
says, and one that reads such an operand. -/
inductive TaskCommand where
  | core (op : Opcode)
  | await
  | pass

/-- What these commands do. -/
def TaskCommand.routine : TaskCommand → Program TaskCommand Verdict
  | core op => Command.core op
  | await => do
    let pending ← Program.send .readU8
    Program.send (.runNative ⟨some pending.toNat⟩)
    return .suspend
  | pass => do
    let _ ← Program.send .readU8
    return .proceed

instance : CommandSet TaskCommand where
  core := .core
  routine := TaskCommand.routine
  routine_core := fun _ ↦ rfl

open EventScript.Action in
/-- The command that hands over, behind the core opcodes. -/
def awaiting : HandOff TaskCommand where
  opcode := 0x12
  operands := [.byte]
  command := .await
  plain := .pass
  hands_over := by
    intro m c
    have hcommand : Handlers.handle TaskCommand.await =
        readU8 >>= fun pending ↦ runNative ⟨some pending.toNat⟩ >>= fun _ ↦ pure .suspend :=
      Program.perform_send_bind .readU8 fun pending ↦
        Program.perform_send_bind (.runNative ⟨some pending.toNat⟩) fun _ ↦ rfl
    rw [hcommand]
    rcases hread : (readU8 : Action TaskCommand UInt8).run (m.movedTo c) with
      ⟨e | value, next, events⟩
    · refine ⟨0, .suspend, ?_⟩
      simp only [skipAll, skip, run_bind, hread]
    · refine ⟨value.toNat, .suspend, ?_⟩
      simp only [skipAll, skip, run_bind, hread, run_pure, List.append_nil]
  reads := by
    intro m c
    have hplain : Handlers.handle TaskCommand.pass = readU8 >>= fun _ ↦ pure .proceed :=
      Program.perform_send_bind .readU8 fun _ ↦ rfl
    rw [hplain]
    rcases hread : (readU8 : Action TaskCommand UInt8).run (m.movedTo c) with
      ⟨e | value, next, events⟩
    · simp only [skipAll, skip, run_bind, hread]
    · simp only [skipAll, skip, run_bind, hread, run_pure, List.append_nil]

/-- A script that awaits a task, loads a bank, waits, and is over. -/
def awaitingScript : Script :=
  .ofBytes 0 [0x12, 0x02, 0x07, 0x00, 0x05, 0x00, 0x00, 0x00, 0x0b, 0x01]

/-- The plain run is over after its fourth unit, so the waiting one comes to the same end. -/
theorem waiting_transparent_awaiting :
    ((Machine.new "primary").begun awaitingScript (waitingTable "tasks" [awaiting])).Ends
      Machine.driven .halt := by
  obtain ⟨-, -, hends⟩ := waiting_transparent [awaiting] "tasks" "plain" awaitingScript
    (.new "primary") rfl
  exact (hends .halt).mpr ⟨3, rfl, rfl, rfl⟩

end EventScript
