import EventScript.Proofs.Batching

/-!
# What the answer of a step tells

A host goes on by the answer of a step alone: it ticks again, resumes, reports a fault. This file
shows that the answer can be relied on. It settles in which mode the context was left, whether a
script waits to be resumed, and where a fault was kept.

## Where the answer comes from

The outcome of a dispatch unit is read off the context once the command has come to its end, so it
makes no difference what the command did: it may have stopped the script, started another, handed
over to a native task, or switched the context off. The outcome read off is never `idle`, which
leaves that answer to a step that does nothing. A batch ends with the first unit that does not leave
a script running, and its answer is the answer of that unit.

A native task is the one exception. When it finishes, the answer is `halted` although the script
that gave way to it is still parked.
-/

namespace EventScript

variable {κ : Type}

/-- The answer of a step describes the machine that the step has left behind. -/
structure Describes (before : Machine κ) (reply : Reply κ StepOutcome) : Prop where
  /-- Nothing is done exactly by a context that is switched off or paused. -/
  idle_iff : reply.result = .ok .idle ↔ before.enabled = false ∨ before.mode = .paused
  /-- Then the machine is as it was. -/
  idle : reply.result = .ok .idle → reply.machine = before
  /-- There is more to do: a script or a native task is at work. -/
  running : reply.result = .ok .running →
    reply.machine.mode = .normal ∨ reply.machine.mode = .native
  /-- A script waits to be resumed. -/
  suspended : reply.result = .ok .suspended →
    reply.machine.mode = .paused ∧ ∃ cursor, reply.machine.parked = some cursor
  /-- Something is over. Only the end of a native task can leave a script to be resumed, and that is
  the one which was parked before. -/
  halted : reply.result = .ok .halted →
    reply.machine.mode = .paused ∧
      ∀ cursor, reply.machine.parked = some cursor →
        before.mode = .native ∧ before.parked = some cursor
  /-- A fault has ended the script, and it is kept. -/
  fault : ∀ e, reply.result = .error e →
    reply.machine.mode = .paused ∧ reply.machine.parked = none ∧
      reply.machine.lastFault = some e

namespace Describes

variable {before after : Machine κ} {events : List Event}

theorem of_idle (h : before.enabled = false ∨ before.mode = .paused) :
    Describes before ⟨.ok .idle, before, events⟩ where
  idle_iff := ⟨fun _ ↦ h, fun _ ↦ rfl⟩
  idle := fun _ ↦ rfl
  running := nofun
  suspended := nofun
  halted := nofun
  fault := nofun

theorem not_idle (henabled : before.enabled = true) (hmode : before.mode ≠ .paused) :
    ¬(before.enabled = false ∨ before.mode = .paused) := by
  rintro (hoff | hpaused)
  · rw [henabled] at hoff
    cases hoff
  · exact hmode hpaused

theorem of_outcome {outcome : StepOutcome} (henabled : before.enabled = true)
    (hmode : before.mode ≠ .paused) (houtcome : outcome = after.outcome) :
    Describes before ⟨.ok outcome, after, events⟩ := by
  subst houtcome
  refine ⟨⟨fun h ↦ ?_, fun h ↦ ?_⟩, fun h ↦ ?_, fun h ↦ ?_, fun h ↦ ?_, fun h ↦ ?_, nofun⟩
  · exact absurd (Except.ok.inj h) after.outcome_ne_idle
  · exact absurd h (not_idle henabled hmode)
  · exact absurd (Except.ok.inj h) after.outcome_ne_idle
  · have hbusy : after.mode ≠ .paused := Context.outcome_eq_running_iff.mp (Except.ok.inj h)
    rcases hafter : after.mode with _ | _ | _
    · exact absurd hafter hbusy
    · exact .inl rfl
    · exact .inr rfl
  · exact Context.outcome_eq_suspended_iff.mp (Except.ok.inj h)
  · obtain ⟨hpaused, hparked⟩ := Context.outcome_eq_halted_iff.mp (Except.ok.inj h)
    refine ⟨hpaused, fun cursor hcursor ↦ ?_⟩
    rw [show after.parked = none from hparked] at hcursor
    cases hcursor

theorem of_fault {e : Fault} (henabled : before.enabled = true) (hmode : before.mode ≠ .paused) :
    Describes before ⟨.error e, after.faulted e, events⟩ where
  idle_iff := ⟨nofun, fun h ↦ absurd h (not_idle henabled hmode)⟩
  idle := nofun
  running := nofun
  suspended := nofun
  halted := nofun
  fault := by
    rintro _ ⟨⟩
    exact ⟨rfl, rfl, rfl⟩

/-- The end of a native task leaves the script behind it parked, whatever it is. -/
theorem of_finished (henabled : before.enabled = true) (hmode : before.mode = .native)
    (hpaused : after.mode = .paused) (hparked : after.parked = before.parked) :
    Describes before ⟨.ok .halted, after, events⟩ where
  idle_iff := ⟨nofun, fun h ↦ absurd h (not_idle henabled (by rw [hmode]; decide))⟩
  idle := nofun
  running := nofun
  suspended := nofun
  halted := fun _ ↦ ⟨hpaused, fun _ hcursor ↦ ⟨hmode, hparked.symm.trans hcursor⟩⟩
  fault := nofun

end Describes

namespace Action

/-! ## Native tasks -/

theorem describes_pollNative {m : Machine κ} {task : NativeTask} (henabled : m.enabled = true)
    (hactivity : m.activity = .native task) : Describes m ((pollNative task).run m) := by
  have hmode : m.mode = .native := by rw [Context.mode, hactivity]; rfl
  rcases hpoll : task.poll with _ | later
  · simp only [pollNative, hpoll, run_bind, run_report, run_modify, run_pure]
    exact .of_finished henabled hmode rfl rfl
  · simp only [pollNative, hpoll, run_bind, run_modify, run_pure]
    exact .of_outcome henabled (by rw [hmode]; decide) rfl

/-! ## Batches -/

variable [Handlers κ]

theorem eq_outcome_of_dispatchUpTo {m : Machine κ} {outcome : StepOutcome} {budget : Nat}
    (hmode : m.mode = .normal) (h : ((dispatchUpTo budget).run m).result = .ok outcome) :
    outcome = ((dispatchUpTo budget).run m).machine.outcome := by
  rw [dispatchUpTo_eq_whileRunning] at h ⊢
  induction budget generalizing m with
  | zero =>
    have hrunning : m.outcome = .running :=
      Context.outcome_eq_running_iff.mpr (by rw [hmode]; decide)
    rw [← Except.ok.inj h]
    exact hrunning.symm
  | succ budget ih =>
    obtain ⟨c, hc⟩ := Machine.exists_eq_movedTo_of_mode hmode
    rcases hunit : (dispatch.run m).result with e | first
    · rw [run_whileRunning_of_error hunit, hunit] at h
      cases h
    · have hfirst : first = (dispatch.run m).machine.outcome := by
        rw [hc] at hunit ⊢
        exact eq_outcome_of_dispatch hunit
      by_cases hmore : first = .running ∧ (dispatch.run m).machine.mode = .normal
      · obtain ⟨rfl, hnext⟩ := hmore
        rw [run_whileRunning_of_more hunit hnext] at h ⊢
        exact ih hnext h
      · rw [run_whileRunning_of_last hunit hmore] at h ⊢
        rw [hunit] at h
        rw [← Except.ok.inj h]
        exact hfirst

theorem describes_stepUpTo (budget : Nat) (m : Machine κ) :
    Describes m ((stepUpTo budget).run m) := by
  rcases henabled : m.enabled with _ | _
  · rw [run_stepUpTo_of_disabled henabled]
    exact .of_idle (.inl henabled)
  rcases hactivity : m.activity with _ | c | task
  · rw [run_stepUpTo_of_paused hactivity]
    exact .of_idle (.inr (by rw [Context.mode, hactivity]; rfl))
  · have hmode : m.mode = .normal := by rw [Context.mode, hactivity]; rfl
    rw [← Machine.movedTo_of_activity hactivity, run_stepUpTo_of_script henabled,
      Machine.movedTo_of_activity hactivity]
    rcases hbatch : ((dispatchUpTo budget).run m).result with e | outcome
    · rw [run_catching_of_error hbatch]
      exact .of_fault henabled (by rw [hmode]; decide)
    · have hreply : (dispatchUpTo budget).run m =
          ⟨.ok outcome, ((dispatchUpTo budget).run m).machine,
            ((dispatchUpTo budget).run m).events⟩ := by rw [← hbatch]
      rw [run_catching_of_ok hbatch, hreply]
      exact .of_outcome henabled (by rw [hmode]; decide) (eq_outcome_of_dispatchUpTo hmode hbatch)
  · rw [run_stepUpTo_of_native henabled hactivity]
    exact describes_pollNative henabled hactivity

/-- **Every answer describes the machine left behind**, under either way of stepping, whatever the
commands of the bound table do. -/
theorem step_answer_describes (m : Machine κ) :
    Describes m (step.run m) ∧ Describes m (stepOnce.run m) := by
  rw [run_step]
  exact ⟨describes_stepUpTo m.stride m, describes_stepUpTo 1 m⟩

end Action

end EventScript
