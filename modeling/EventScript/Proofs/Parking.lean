import EventScript.Proofs.Frame
import EventScript.Proofs.Soundness

/-!
# Parked scripts

A script that suspended or gave way to a native task is parked: its place is kept, and with it the
call stack. Only four operations let go of it. Three of them, starting a script or a native task
and resuming, do so only if they succeed; the fourth is stopping. Whatever else is done in
between, the script is still there, and it can be resumed as soon as the context is paused and
enabled.

## Why nothing gets lost

Parking overwrites what was parked before, and calls and returns change the call stack. All of
that takes a running script, and soundness says that nothing is parked while a script runs. A
context that holds a script is therefore paused or waits for a native task. There the operations
on the script are refused, a step is idle or asks the task, and a further native task takes the
place of the one before it without touching what is parked.
-/

namespace EventScript

variable {κ : Type}

/-! ## While no script runs -/

theorem Context.activity_of_mode {c : Context κ} (h : c.mode ≠ .normal) :
    c.activity = .paused ∨ ∃ task, c.activity = .native task := by
  rcases hactivity : c.activity with _ | place | task
  · exact .inl rfl
  · exact absurd (congrArg Activity.mode hactivity) h
  · exact .inr ⟨task, rfl⟩

/-- The request lets go of a parked script. -/
def Request.Releases (m : Machine κ) : Request κ → Prop
  | stop => True
  | start script table => ((Action.start script table).run m).result = .ok ()
  | startNative task => ((Action.startNative task).run m).result = .ok ()
  | resume => (Action.resume.run m).result = .ok ()
  | _ => False

/-- While no script runs, a request to change the activity, the parked cursor or the call stack is
refused, unless it lets go of what is parked or brings a native task. -/
theorem Request.machine_of_mode {m : Machine κ} (h : m.mode ≠ .normal) {r : Request κ}
    (hreleases : ¬r.Releases m) (htask : ∀ task, r ≠ .runNative task)
    (htouched : .activity ∈ r.touched ∨ .parked ∈ r.touched ∨ .callStack ∈ r.touched) :
    (r.perform.run m).machine = m := by
  have hrefused : ∀ {result : Except Fault Unit}, result ≠ .ok () → ∃ e, result = .error e := by
    rintro (e | _) hresult
    · exact ⟨e, rfl⟩
    · exact absurd rfl hresult
  cases r with
  | stop => exact absurd trivial hreleases
  | runNative task => exact absurd rfl (htask task)
  | start _ _ | startNative _ | resume =>
    obtain ⟨e, he⟩ := hrefused hreleases
    exact machine_of_error (by nofun) he
  | call _ | ret | jump _ | readU8 | readU16 | readU32 | readTarget =>
    rcases Context.activity_of_mode h with hactivity | ⟨task, hactivity⟩ <;>
      simp only [perform, Action.call, Action.ret, Action.jump, Action.readU8, Action.readU16,
        Action.readU32, Action.readTarget, Action.readWith, hactivity]
  | _ => simp [touched] at htouched

theorem Action.run_runNative_of_mode {m : Machine κ} (h : m.mode ≠ .normal) (task : NativeTask) :
    (runNative task).run m = ⟨.ok (), { m with activity := .native task }, []⟩ := by
  rcases Context.activity_of_mode h with hactivity | ⟨_, hactivity⟩ <;>
    simp only [runNative, run_modify, hactivity]

/-- **What a request can do while no script runs**: it lets go of what is parked, it brings a native
task, or the activity, the parked cursor and the call stack stay as they are. -/
theorem Request.cases_of_mode {m : Machine κ} (h : m.mode ≠ .normal) (r : Request κ) :
    r.Releases m ∨ (∃ task, r = .runNative task) ∨
      ((r.perform.run m).machine.activity = m.activity ∧
        (r.perform.run m).machine.parked = m.parked ∧
        (r.perform.run m).machine.callStack = m.callStack) := by
  by_cases hreleases : r.Releases m
  · exact .inl hreleases
  by_cases htask : ∃ task, r = .runNative task
  · exact .inr (.inl htask)
  refine .inr (.inr ?_)
  by_cases htouched : .activity ∈ r.touched ∨ .parked ∈ r.touched ∨ .callStack ∈ r.touched
  · have hsame : (r.perform.run m).machine = m :=
      machine_of_mode h hreleases (fun task hr ↦ htask ⟨task, hr⟩) htouched
    rw [hsame]
    exact ⟨rfl, rfl, rfl⟩
  · obtain ⟨hactivity, hparked, hstack⟩ := not_or.mp htouched |>.imp_right not_or.mp
    exact ⟨agreeIn hactivity m, agreeIn hparked m, agreeIn hstack m⟩

/-- **What a step can do while no script runs**: nothing but ask the native task. No command is
carried out, whatever the commands are. -/
theorem Action.run_stepUpTo_of_mode [Handlers κ] {m : Machine κ} (h : m.mode ≠ .normal)
    (budget : Nat) :
    ∃ outcome activity events, activity.mode ≠ .normal ∧
      (stepUpTo budget).run m = ⟨.ok outcome, { m with activity := activity }, events⟩ := by
  rcases Context.activity_of_mode h with hpaused | ⟨task, htask⟩
  · exact ⟨.idle, m.activity, [], h, run_stepUpTo_of_paused hpaused budget⟩
  by_cases hoff : m.enabled = false
  · exact ⟨.idle, m.activity, [], h, run_stepUpTo_of_disabled hoff budget⟩
  rw [run_stepUpTo_of_native (eq_true_of_ne_false hoff) htask, pollNative]
  split
  case h_1 next _ => exact ⟨.running, .native next, [], nofun, rfl⟩
  case h_2 => exact ⟨.halted, .paused, [.nativeFinished], nofun, rfl⟩

/-! ## Holding a script -/

/-- A script is parked at the cursor with the given call stack, and no other script runs. -/
structure Context.Holds (x : Context κ) (cursor : Cursor) (stack : List Cursor) : Prop where
  /-- The place of the script. -/
  parked : x.parked = some cursor
  /-- The return addresses of the script. -/
  callStack : x.callStack = stack
  /-- The context is paused or waits for a native task. -/
  mode_ne_normal : x.mode ≠ .normal

namespace Context.Holds

variable {m : Machine κ} {cursor : Cursor} {stack : List Cursor}

theorem request (h : m.Holds cursor stack) {r : Request κ} (hr : ¬r.Releases m) :
    (r.perform.run m).machine.Holds cursor stack := by
  obtain hreleases | ⟨task, rfl⟩ | ⟨hactivity, hparked, hstack⟩ :=
    Request.cases_of_mode h.mode_ne_normal r
  · exact absurd hreleases hr
  · rw [Request.perform, Action.run_runNative_of_mode h.mode_ne_normal]
    exact ⟨h.parked, h.callStack, show Mode.native ≠ .normal by decide⟩
  · refine ⟨hparked.trans h.parked, hstack.trans h.callStack, ?_⟩
    rw [mode, hactivity]
    exact h.mode_ne_normal

theorem stepUpTo [Handlers κ] (h : m.Holds cursor stack) (budget : Nat) :
    ((Action.stepUpTo budget).run m).machine.Holds cursor stack := by
  obtain ⟨_, activity, _, hmode, hrun⟩ := Action.run_stepUpTo_of_mode h.mode_ne_normal budget
  rw [hrun]
  exact ⟨h.parked, h.callStack, hmode⟩

theorem step [Handlers κ] (h : m.Holds cursor stack) :
    (Action.step.run m).machine.Holds cursor stack := by
  rw [Action.run_step]
  exact h.stepUpTo _

theorem run_resume (h : m.Holds cursor stack) (hmode : m.mode = .paused)
    (henabled : m.enabled = true) :
    Action.resume.run m =
      ⟨.ok (), { m with activity := .script cursor, parked := none, callStack := stack },
        [.resumed cursor.offset]⟩ := by
  rcases activity_of_mode h.mode_ne_normal with hactivity | ⟨task, hactivity⟩
  · simp [Action.resume, henabled, hactivity, h.parked, ← h.callStack]
  · rw [mode, hactivity] at hmode
    cases hmode

end Context.Holds

/-! ## In the meantime -/

/-- What a machine can become while nothing lets go of a parked script: the host performs other
requests and steps in any order, and any set of temporaries may be bound. -/
inductive Meanwhile (handler : κ → Handler κ Verdict) (m : Machine κ) : Machine κ → Prop where
  /-- Nothing has happened yet. -/
  | refl : Meanwhile handler m m
  /-- The temporaries are another set now, or another context has written to them. -/
  | share {n : Machine κ} (temporaries : Temporaries) :
    Meanwhile handler m n → Meanwhile handler m { n with temporaries := temporaries }
  /-- The host performs a request, which may be refused. -/
  | request {n : Machine κ} (r : Request κ) :
    ¬r.Releases n → Meanwhile handler m n → Meanwhile handler m (r.perform.run n).machine
  /-- The host steps the context. -/
  | step {n : Machine κ} {reply : Reply κ StepOutcome} :
    ComesTo handler Stepping.step n reply → Meanwhile handler m n →
      Meanwhile handler m reply.machine
  /-- The host makes a dispatch unit. -/
  | stepOnce {n : Machine κ} {reply : Reply κ StepOutcome} :
    ComesTo handler Stepping.stepOnce n reply → Meanwhile handler m n →
      Meanwhile handler m reply.machine

theorem Context.Holds.meanwhile {handler : κ → Handler κ Verdict} {m n : Machine κ}
    {cursor : Cursor} {stack : List Cursor} (h : m.Holds cursor stack)
    (hn : Meanwhile handler m n) : n.Holds cursor stack := by
  induction hn with
  | refl => exact h
  | share temporaries _ ih => exact ⟨ih.parked, ih.callStack, ih.mode_ne_normal⟩
  | request r hr _ ih => exact ih.request hr
  | step hreply _ ih =>
    obtain ⟨_, rfl⟩ := hreply.exists_handlers
    exact ih.step
  | stepOnce hreply _ ih =>
    obtain ⟨_, rfl⟩ := hreply.exists_handlers
    exact ih.stepUpTo 1

/-- **A parked script is never lost.** Whatever is done to a context with a parked script short of
letting go of it, the script is still parked at its place with its call stack; and as soon as the
context is paused and enabled, resuming goes on from there. -/
theorem parked_script_kept [CommandSet κ] {handler : κ → Handler κ Verdict}
    (hhandler : ∀ command, (handler command).Admissible) {m n : Machine κ}
    (hreachable : Reachable handler m) {cursor : Cursor} (hparked : m.parked = some cursor)
    (hmeanwhile : Meanwhile handler m n) :
    n.parked = some cursor ∧ n.callStack = m.callStack ∧
      (n.mode = .paused → n.enabled = true →
        Action.resume.run n =
          ⟨.ok (), { n with activity := .script cursor, parked := none, callStack := m.callStack },
            [.resumed cursor.offset]⟩) := by
  have hsound : m.Sound := hreachable.sound hhandler
  have hmode : m.mode ≠ .normal := by
    intro hnormal
    rw [hsound.parked_eq_none hnormal] at hparked
    cases hparked
  have hholds : m.Holds cursor m.callStack := ⟨hparked, rfl, hmode⟩
  have hkept : n.Holds cursor m.callStack := hholds.meanwhile hmeanwhile
  exact ⟨hkept.parked, hkept.callStack, hkept.run_resume⟩

/-- A subroutine at offset 6 that waits. -/
def waitingScript : Script := .ofBytes 0 [0x03, 0x06, 0x00, 0x00, 0x00, 0x01, 0x0b, 0x02]

/-- The script about to start. -/
def waitingStart : Machine Opcode :=
  (Action.run (.start waitingScript .core) (.new "primary")).machine

/-- The script waiting in its subroutine. -/
def waitingMachine : Machine Opcode :=
  (Action.step.run (Action.step.run waitingStart).machine).machine

/-- Two native tasks one over the other, and meanwhile a resumption, a return and a start that are
refused; when the second task is over, the script goes on in its subroutine. -/
theorem parked_script_kept_under_tasks :
    let handler : Opcode → Handler Opcode Verdict := fun op ↦ .ofProgram (Command.core op)
    ∃ n, Meanwhile handler waitingMachine n ∧ n.mode = .paused ∧
      n.parked = some ⟨waitingScript, 7⟩ ∧
      (Action.resume.run n).machine.activity = .script ⟨waitingScript, 7⟩ ∧
      (Action.resume.run n).machine.callStack = [⟨waitingScript, 5⟩] := by
  intro handler
  have hreachable : Reachable handler waitingMachine :=
    .step (comesTo_step_ofProgram _) (.step (comesTo_step_ofProgram _)
      (.request (.start waitingScript .core) trivial (.new "primary" .zero)))
  have hstart : Meanwhile handler waitingMachine waitingMachine := .refl
  have hfirst := hstart.request (.runNative ⟨some 1⟩) id
  have hpolled := hfirst.step (comesTo_step_ofProgram _)
  have hrefused := (hpolled.request .resume (fun h ↦ by cases h)).request .ret id
  have hsecond := hrefused.request (.runNative ⟨some 0⟩) id
  have hoff := hsecond.request (.setEnabled false) id
  have hagain := (hoff.request (.start waitingScript .core) (fun h ↦ by cases h)).request
    (.setEnabled true) id
  have hlast := hagain.step (comesTo_step_ofProgram _)
  obtain ⟨hparked, -, hresume⟩ :=
    parked_script_kept Handler.admissible_core hreachable rfl hlast
  refine ⟨_, hlast, rfl, hparked, ?_⟩
  rw [hresume rfl rfl]
  exact ⟨rfl, rfl⟩

end EventScript
