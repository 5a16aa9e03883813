import Mathlib.Data.List.DropRight
import EventScript.Proofs.Accounting
import EventScript.Proofs.KillSwitch

/-!
# Who may move

While a script of the primary context is busy the player may move only if control was given back.
This file says by whom. The switch that the gate looks at is set by `release_input` and cleared by
`lock_input`, and by nothing else: a start clears the call stack, the parked script and the last
fault, but not the switch. So what decides is the last of the two commands in the whole life of the
context, in whichever script it stands.

## Left-over releases

For a script that has executed one of the two commands itself, this is what it should be: the player
may move if its last one was a release. A script that has executed neither takes the switch as it
finds it. If an earlier script left it released, the player walks about during a script that never
gave control back; this is the only way in which a script gets control back from another.

## Moments

The life of a context is told as a list of moments: a script is started, or a command is executed.
Starts are those that were granted, and executed commands those that the context reports as
dispatched.
-/

namespace EventScript

variable {κ α : Type}

/-! ## Moments -/

/-- Something in the life of a context that bears on who has control. -/
inductive Moment where
  /-- A script is started. -/
  | started
  /-- A core command is executed. -/
  | executed (op : Opcode)
  deriving DecidableEq

namespace Moment

/-- Whether control is given back after the moment, if it is so before. -/
def control (held : Bool) : Moment → Bool
  | executed .releaseInput => true
  | executed .lockInput => false
  | _ => held

/-- Control was given back and not taken again. -/
def Released (moments : List Moment) : Prop :=
  ∃ front back, moments = front ++ executed .releaseInput :: back ∧ executed .lockInput ∉ back

/-- The moments since a script was started last. -/
def own (moments : List Moment) : List Moment := moments.rtakeWhile (· ≠ started)

/-- The moments up to the last start of a script. -/
def earlier (moments : List Moment) : List Moment := moments.rdropWhile (· ≠ started)

/-- Control was given back by an earlier script, and the current one had nothing to do with it. -/
def LeftOver (moments : List Moment) : Prop :=
  Released (earlier moments) ∧ executed .releaseInput ∉ own moments ∧
    executed .lockInput ∉ own moments

theorem not_released_nil : ¬Released [] := by
  rintro ⟨front, back, hsplit, -⟩
  cases front <;> cases hsplit

/-- The last moment decides, or leaves things as they are. -/
theorem released_concat {moments : List Moment} {last : Moment} :
    Released (moments ++ [last]) ↔
      last = executed .releaseInput ∨ last ≠ executed .lockInput ∧ Released moments := by
  constructor
  · rintro ⟨front, back, hsplit, hback⟩
    rcases List.eq_nil_or_concat back with rfl | ⟨inner, final, rfl⟩
    · exact .inl (List.singleton_inj.mp (List.append_inj' hsplit rfl).2)
    · rw [List.concat_eq_append] at hsplit hback
      rw [← List.cons_append, ← List.append_assoc] at hsplit
      obtain ⟨hmoments, hlast⟩ := List.append_inj' hsplit rfl
      cases hlast
      simp only [List.mem_append, List.mem_singleton, not_or] at hback
      exact .inr ⟨fun h ↦ hback.2 h.symm, front, inner, hmoments, hback.1⟩
  · rintro (rfl | ⟨hlast, front, back, rfl, hback⟩)
    · exact ⟨moments, [], rfl, List.not_mem_nil⟩
    · refine ⟨front, back ++ [last], by simp, ?_⟩
      simp only [List.mem_append, List.mem_singleton, not_or]
      exact ⟨hback, fun h ↦ hlast h.symm⟩

/-- The switch shows whether control was given back and not taken again. -/
theorem foldl_control_iff {moments : List Moment} :
    moments.foldl control false = true ↔ Released moments := by
  induction moments using List.reverseRecOn with
  | nil => simp [not_released_nil]
  | append_singleton moments last ih =>
    rw [List.foldl_concat, released_concat, ← ih]
    rcases last with _ | op
    · simp [control]
    · cases op <;> simp [control]

theorem released_append {front back : List Moment} :
    Released (front ++ back) ↔
      Released back ∨ Released front ∧ executed .releaseInput ∉ back ∧
        executed .lockInput ∉ back := by
  induction back using List.reverseRecOn with
  | nil => simp [not_released_nil]
  | append_singleton back last ih =>
    rw [← List.append_assoc, released_concat, released_concat, ih]
    simp only [List.mem_append, List.mem_singleton, not_or]
    constructor
    · rintro (hlast | ⟨hlast, hback | ⟨hfront, hnone⟩⟩)
      · exact .inl (.inl hlast)
      · exact .inl (.inr ⟨hlast, hback⟩)
      · by_cases hrelease : last = executed .releaseInput
        · exact .inl (.inl hrelease)
        · exact .inr ⟨hfront, ⟨hnone.1, Ne.symm hrelease⟩, hnone.2, Ne.symm hlast⟩
    · rintro ((hlast | ⟨hlast, hback⟩) | ⟨hfront, hrelease, hlock⟩)
      · exact .inl hlast
      · exact .inr ⟨hlast, .inl hback⟩
      · exact .inr ⟨Ne.symm hlock.2, .inr ⟨hfront, hrelease.1, hlock.1⟩⟩

theorem released_iff {moments : List Moment} :
    Released moments ↔ Released (own moments) ∨ LeftOver moments := by
  have hsplit : earlier moments ++ own moments = moments :=
    List.rdropWhile_append_rtakeWhile
  rw [LeftOver, ← released_append, hsplit]

end Moment

/-- The execution that an event reports. -/
def Event.executed? : Event → Option Moment
  | dispatched opcode _ _ => (Opcode.ofByte opcode).toOption.map .executed
  | _ => none

/-- The executions that a reply reports. -/
def Reply.executions (reply : Reply κ α) : List Moment := reply.events.filterMap Event.executed?

theorem Reply.executions_eq_nil {reply : Reply κ α} (h : reply.dispatches = []) :
    reply.executions = [] := by
  refine List.filterMap_eq_nil_iff.mpr fun event hevent ↦ ?_
  have hother : event.isDispatch ≠ true := List.filter_eq_nil_iff.mp h event hevent
  cases event with
  | dispatched _ _ _ => exact absurd rfl hother
  | _ => rfl

/-! ## Commands and steps -/

namespace Action

open Machine

theorem inputControl_heeding (a : Action κ Verdict) (m : Machine κ) :
    ((heeding a).run m).machine.inputControl = (a.run m).machine.inputControl := by
  have hkeeps : StableUnderStep fun n ↦ (a.run m).machine.AgreeIn n .inputControl :=
    stableUnderStep_agreeIn _ (by simp [Part.OfStep])
  exact hkeeps.heeding (.refl _ _)

variable [CommandSet κ] [Handlers κ] [CoreHandlers κ]

/-- **Of the core commands, two bear on who has control.** -/
theorem inputControl_core (op : Opcode) (m : Machine κ) :
    ((Handlers.handle (CommandSet.core op : κ)).run m).machine.inputControl =
      Moment.control m.inputControl (.executed op) := by
  rw [CoreHandlers.handle_core]
  by_cases htouched : .inputControl ∈ op.touched
  · cases op with
    | lockInput | releaseInput => rfl
    | _ => simp [Opcode.touched] at htouched
  · have hsame : ((Command.core op).perform.run m).machine.inputControl = m.inputControl :=
      Program.agreeIn (Command.all_untouched htouched) m
    rw [hsame]
    cases op with
    | lockInput | releaseInput => simp [Opcode.touched] at htouched
    | _ => rfl

/-- The reply leaves the machine under the core table, with control as the executions have it. -/
structure Accounted (m : Machine κ) (reply : Reply κ α) : Prop where
  /-- The core table is bound. -/
  table : reply.machine.table = .core
  /-- Control follows from the executions. -/
  inputControl : reply.machine.inputControl = reply.executions.foldl Moment.control m.inputControl

theorem accounted_dispatch {m : Machine κ} (h : m.table = .core) :
    Accounted m (dispatch.run m) := by
  refine ⟨table_dispatch h, ?_⟩
  by_cases hmode : m.mode = .normal
  · obtain ⟨c, hc⟩ := exists_eq_movedTo_of_mode hmode
    rw [hc]
    rcases hrest : c.rest with _ | ⟨opcode, back⟩
    · rw [run_dispatch_of_atEnd hrest]
      rfl
    · rcases hlookup : m.table.lookup opcode with kind | command
      · rw [run_dispatch_of_error hrest hlookup]
        rfl
      · have hcore := hlookup
        rw [h] at hcore
        obtain ⟨op, rfl, rfl⟩ := CommandTable.eq_core_of_lookup hcore
        have hsilent : ((heeding (Handlers.handle (CommandSet.core op : κ))).run
            (m.movedTo (c.advance 1))).executions = [] := by
          rw [CoreHandlers.handle_core]
          exact Reply.executions_eq_nil
            (dispatches_heeding ((Command.core op).dispatches_eq_nil _))
        have hreport : Event.executed? (.dispatched op.toByte c.offset m.table.name) =
            some (.executed op) := by
          rw [Event.executed?, Opcode.ofByte_eq_ok_iff.mpr rfl]
          rfl
        rw [run_dispatch_of_command hrest hlookup, Reply.executions,
          List.filterMap_cons_some hreport, ← Reply.executions, hsilent]
        exact (inputControl_heeding _ _).trans (inputControl_core op _)
  · rw [run_dispatch_of_idle hmode]
    rfl

theorem accounted_dispatchUpTo {m : Machine κ} (h : m.table = .core) (budget : Nat) :
    Accounted m ((dispatchUpTo budget).run m) := by
  rw [dispatchUpTo_eq_whileRunning]
  induction budget generalizing m with
  | zero => exact ⟨h, rfl⟩
  | succ budget ih =>
    have hunit := accounted_dispatch h
    by_cases hmore : (dispatch.run m).result = .ok .running ∧
        (dispatch.run m).machine.mode = .normal
    · have hrest := ih hunit.table
      rw [run_whileRunning_of_more hmore.1 hmore.2]
      refine ⟨hrest.table, ?_⟩
      rw [Reply.executions, List.filterMap_append, List.foldl_append]
      exact hrest.inputControl.trans (congrArg (List.foldl _ · _) hunit.inputControl)
    · rw [run_whileRunning_of_no_more hmore]
      exact hunit

/-- **A step under the core table leaves control as its executions have it.** -/
theorem accounted_step {m : Machine κ} (h : m.table = .core) : Accounted m (step.run m) := by
  rw [run_step]
  rcases henabled : m.enabled with _ | _
  · rw [run_stepUpTo_of_disabled henabled]
    exact ⟨h, rfl⟩
  rcases hactivity : m.activity with _ | c | task
  · rw [run_stepUpTo_of_paused hactivity]
    exact ⟨h, rfl⟩
  · have hbatch := accounted_dispatchUpTo h m.stride
    rw [← movedTo_of_activity hactivity, run_stepUpTo_of_script henabled,
      movedTo_of_activity hactivity]
    rcases hresult : ((dispatchUpTo m.stride).run m).result with e | outcome
    · rw [run_catching_of_error hresult]
      have hsilent : [Event.faulted e].filterMap Event.executed? = [] := rfl
      refine ⟨hbatch.table, ?_⟩
      rw [Reply.executions, List.filterMap_append, hsilent, List.append_nil]
      exact hbatch.inputControl
    · rw [run_catching_of_ok hresult]
      exact hbatch
  · rw [run_stepUpTo_of_native henabled hactivity, pollNative]
    split <;> exact ⟨h, rfl⟩

end Action

/-! ## The life of a context -/

/-- The moment that a request brings about: a script is started if the request is granted. -/
def Request.moments (m : Machine κ) : Request κ → List Moment
  | start script table =>
    match ((Action.start script table).run m).result with
    | .ok () => [.started]
    | .error _ => []
  | _ => []

theorem Request.inputControl_eq {r : Request κ} (hr : ∀ given, r ≠ .setInputControl given)
    (m : Machine κ) :
    (r.perform.run m).machine.inputControl = (r.moments m).foldl Moment.control m.inputControl := by
  have huntouched : .inputControl ∉ r.touched := by
    cases r with
    | setInputControl given => exact absurd rfl (hr given)
    | _ => simp [touched]
  have hsame : (r.perform.run m).machine.inputControl = m.inputControl := agreeIn huntouched m
  rw [hsame]
  cases r with
  | start script table =>
    rw [moments]
    split <;> rfl
  | _ => rfl

variable [CommandSet κ] [Handlers κ] [CoreHandlers κ]

/-- The moments in the life of the context of a side that an act brings about. -/
def HostAct.moments (side : Side) (h : Host κ) : HostAct κ → List Moment
  | tick => (Action.step.run (h.found side)).executions
  | request asked r => if asked = side then r.moments (h.machine side) else []

namespace Host

/-- The life of the context of a side over a sequence of acts. -/
def moments (side : Side) (h : Host κ) : List (HostAct κ) → List Moment
  | [] => []
  | act :: acts => act.moments side h ++ (act.after h).moments side acts

variable {side : Side} {h : Host κ}

theorem inputControl_act (hcore : h.RunsCore) {act : HostAct κ}
    (hact : ∀ given, act ≠ .request side (.setInputControl given)) :
    ((act.after h).context side).inputControl =
      (act.moments side h).foldl Moment.control (h.context side).inputControl := by
  rcases act with _ | ⟨asked, r⟩
  · rw [HostAct.after, context_tick, HostAct.moments,
      (Action.accounted_step (hcore.found side)).inputControl, toContext_found]
  · by_cases hside : side = asked
    · subst hside
      rw [HostAct.after, context_on, HostAct.moments, if_pos rfl,
        Request.inputControl_eq fun given hr ↦ hact given (by rw [hr])]
      rfl
    · rw [HostAct.after, context_on_of_ne hside, HostAct.moments, if_neg (Ne.symm hside)]
      rfl

/-- **Control is what the moments make of it.** -/
theorem inputControl_afterActs (hcore : h.RunsCore) {acts : List (HostAct κ)}
    (hacts : ∀ act ∈ acts, act.CoreOnly)
    (hcontrol : ∀ given, .request side (.setInputControl given) ∉ acts) :
    ((h.afterActs acts).context side).inputControl =
      (h.moments side acts).foldl Moment.control (h.context side).inputControl := by
  induction acts generalizing h with
  | nil => rfl
  | cons act acts ih =>
    have hnext : (act.after h).RunsCore := hcore.act (hacts act List.mem_cons_self)
    have hact : ((act.after h).context side).inputControl =
        (act.moments side h).foldl Moment.control (h.context side).inputControl :=
      inputControl_act hcore fun given hgiven ↦ hcontrol given (hgiven ▸ List.mem_cons_self)
    have hlater := ih hnext (fun later hmem ↦ hacts later (List.mem_cons_of_mem act hmem))
      fun given hmem ↦ hcontrol given (List.mem_cons_of_mem act hmem)
    rw [moments, List.foldl_append, ← hact]
    exact hlater

end Host

/-- **Who may move while the primary context is busy.** Over any sequence of acts under the core
table in which the host itself leaves control alone, the player may move exactly if the script
started last has given control back and not taken it again, or if it has done neither and an earlier
script left control given back. -/
theorem movement_while_busy (config : EngineConfig) (acts : List (HostAct κ))
    (hacts : ∀ act ∈ acts, act.CoreOnly)
    (hcontrol : ∀ given, .request .primary (.setInputControl given) ∉ acts) :
    let h := (Host.new config : Host κ).afterActs acts
    let moments := (Host.new config : Host κ).moments .primary acts
    h.primary.busy = true →
      (h.inputGate.movementAllowed = true ↔
        Moment.Released (Moment.own moments) ∨ Moment.LeftOver moments) := by
  intro h moments hbusy
  have hgate : h.inputGate.movementAllowed = (h.context .primary).inputControl := by
    rw [Host.inputGate, hbusy]
    rfl
  have hswitch : (h.context .primary).inputControl = moments.foldl Moment.control false :=
    Host.inputControl_afterActs (by rintro (_ | _) <;> rfl) hacts hcontrol
  rw [hgate, hswitch, Moment.foldl_control_iff, Moment.released_iff]

/-- A script that gives control back and ends. -/
def givingBack : List (HostAct Opcode) :=
  [.request .primary (.start (.ofBytes 0 [0x0d, 0x01]) .core), .tick, .tick]

/-- Then one that takes control and gives it back before it waits. -/
def givingBackInTurn : List (HostAct Opcode) :=
  givingBack ++ [.request .primary (.start (.ofBytes 1 [0x0c, 0x0d, 0x0b, 0x00]) .core),
    .tick, .tick, .tick, .request .primary .resume]

/-- The second script took control first, so the player moves because it gave it back. -/
theorem movement_while_busy_in_turn :
    let h := (Host.new {}).afterActs givingBackInTurn
    let moments := (Host.new {}).moments .primary givingBackInTurn
    h.primary.busy = true ∧ h.inputGate.movementAllowed = true ∧
      Moment.own moments = [.executed .lockInput, .executed .releaseInput, .executed .wait] ∧
      Moment.Released (Moment.own moments) := by
  intro h moments
  have hacts : ∀ act ∈ givingBackInTurn, act.CoreOnly := by
    simp [givingBackInTurn, givingBack, HostAct.CoreOnly, Request.CoreOnly]
  have hcontrol : ∀ given, .request .primary (.setInputControl given) ∉ givingBackInTurn := by
    simp [givingBackInTurn, givingBack]
  have hgate := movement_while_busy {} givingBackInTurn hacts hcontrol rfl
  have hown : Moment.own moments =
      [.executed .lockInput, .executed .releaseInput, .executed .wait] := rfl
  refine ⟨rfl, rfl, hown, (hgate.mp rfl).resolve_right ?_⟩
  rintro ⟨-, -, hlock⟩
  exact hlock (hown ▸ List.mem_cons_self)

/-- Then one that has executed nothing yet. -/
def leftOverStart : List (HostAct Opcode) :=
  givingBack ++ [.request .primary (.start (.ofBytes 1 [0x00]) .core)]

/-- **A release outlives its script**: the script started last is running and has not executed
anything, and the player may move. -/
theorem movement_left_over :
    let h := (Host.new {}).afterActs leftOverStart
    let moments := (Host.new {}).moments .primary leftOverStart
    (∀ act ∈ leftOverStart, act.CoreOnly) ∧
      (∀ given, .request .primary (.setInputControl given) ∉ leftOverStart) ∧
      h.primary.busy = true ∧
      ¬(h.inputGate.movementAllowed = true ↔ Moment.Released (Moment.own moments)) := by
  intro h moments
  have hown : Moment.own moments = [] := rfl
  refine ⟨?_, ?_, rfl, fun hiff ↦ ?_⟩
  · simp [leftOverStart, givingBack, HostAct.CoreOnly, Request.CoreOnly]
  · simp [leftOverStart, givingBack]
  · exact Moment.not_released_nil (hown ▸ hiff.mp rfl)

end EventScript
