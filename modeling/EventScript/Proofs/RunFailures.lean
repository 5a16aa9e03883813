import EventScript.Proofs.Nesting
import EventScript.Proofs.Reference
import EventScript.Proofs.Rounds

/-!
# How a run can fail

Running a script has several places where it might fail: the start may be refused, a tick may end in
a fault, resuming may be refused. This file shows that two of them are real. A run fails if the
primary context is switched off, and then nothing at all has happened, or else the script itself has
ended in a fault in the last tick, which is then the answer of the run.

## Why the others do not come up

At the beginning of every round the primary context is switched on and runs a script under the core
table (`Host.AtWork`). No core command gives that up, and the level context has nothing to do with
it, whatever its commands do, even if they step it themselves. So no tick finds the primary context
idle, and a script that a tick leaves suspended is parked in a context that may resume it.

That the context is switched off cannot be the answer of a tick either. Core commands start and
resume nothing, and every fault that they, or a defect in the script, can bring about is fatal.
-/

namespace EventScript

open Instruction

variable {κ : Type}

/-! ## Fatal faults -/

/-- The check fails only with fatal faults. -/
def FailsFatally (checked : Except Fault Unit) : Prop :=
  ∀ e, checked = .error e → e.isFatal = true

namespace FailsFatally

theorem ok : FailsFatally (.ok ()) := nofun

theorem ite {p : Prop} [Decidable p] {e : Fault} (he : e.isFatal = true) :
    FailsFatally (if p then .ok () else .error e) := by
  split
  · exact ok
  · rintro _ ⟨⟩
    exact he

theorem bind {first second : Except Fault Unit} (hfirst : FailsFatally first)
    (hsecond : FailsFatally second) : FailsFatally (do first; second) := by
  rcases first with e | _
  · exact hfirst
  · exact hsecond

end FailsFatally

theorem Instruction.failsFatally_check (i : Instruction) (next : Cursor) (m : Machine κ) :
    FailsFatally (i.check next m) := by
  cases i with
  | nop | stop | wait | lockInput | releaseInput | face _ => exact .ok
  | ret => exact .ite rfl
  | goto _ | gotoIf _ _ => exact .ite rfl
  | call _ => exact .bind (.ite rfl) (.ite rfl)
  | callIf condition _ =>
    refine .bind (.ite rfl) ?_
    split
    · exact .ite rfl
    · exact .ok
  | loadBank _ _ | compareBank _ _ | addBank _ _ | setTemp _ _ => exact .ite rfl
  | copyBank _ _ | loadTemp _ _ | storeTemp _ _ => exact .bind (.ite rfl) (.ite rfl)

theorem Field.isFatal_of_flaw? {field : Field} {c : Cursor} {e : Fault}
    (h : field.flaw? c = some e) : e.isFatal = true := by
  unfold flaw? at h
  split at h
  · cases h
    rfl
  · split at h
    · split at h
      · cases h
        rfl
      · cases h
    · cases h

theorem Cursor.isFatal_of_defect? {c : Cursor} {e : Fault} (h : c.defect? = some e) :
    e.isFatal = true := by
  have hfields : ∀ (fields : List Field) (c : Cursor), Field.firstFlaw? fields c = some e →
      e.isFatal = true := by
    intro fields
    induction fields with
    | nil => nofun
    | cons field fields ih =>
      intro c hflaw
      rw [Field.firstFlaw?, Option.or_eq_some_iff] at hflaw
      rcases hflaw with hflaw | ⟨-, hflaw⟩
      · exact Field.isFatal_of_flaw? hflaw
      · exact ih _ hflaw
  unfold defect? at h
  split at h
  · cases h
  · split at h
    · exact hfields _ _ h
    · cases h
      rfl

namespace Action

open Machine

variable [CommandSet κ] [Handlers κ] [CoreHandlers κ]

theorem keeps_fatal_dispatch :
    Keeps (fun m : Machine κ ↦ m.table = .core) (·.isFatal = true) dispatch := by
  intro m hm
  refine ⟨table_dispatch hm, fun e he ↦ ?_⟩
  by_cases hmode : m.mode = .normal
  · obtain ⟨c, hc⟩ := exists_eq_movedTo_of_mode hmode
    have hactivity : m.activity = .script c := congrArg (·.activity) hc
    obtain ⟨-, hresult, -⟩ | ⟨e', d, hresult, -, hdefect | ⟨i, hcheck⟩⟩ |
      ⟨i, back, -, -, hresult, -⟩ := dispatch_cases hm hactivity
    · cases hresult.symm.trans he
    · cases hresult.symm.trans he
      exact Cursor.isFatal_of_defect? hdefect
    · cases hresult.symm.trans he
      exact i.failsFatally_check _ m e hcheck
    · cases hresult.symm.trans he
  · rw [run_dispatch_of_idle hmode] at he
    cases he

/-- **Under the core table a step fails only with fatal faults.** -/
theorem isFatal_of_step {m : Machine κ} (h : m.table = .core) {e : Fault}
    (he : (step.run m).result = .error e) : e.isFatal = true := by
  rw [run_step] at he
  refine (keeps_fatal_dispatch.stepUpTo (fun e m hm ↦ hm) ?_ m.stride m h).fault e he
  intro task m _ hm
  unfold pollNative
  split
  · exact .ok hm
  · exact .ok hm

end Action

namespace Host

variable [CommandSet κ] [Handlers κ] [CoreHandlers κ] {h g : Host κ} {autoResume : Bool}
  {limit : Nat}

/-! ## What holds of every round -/

namespace AtWork

theorem of_mem_rounds (hwork : h.AtWork) (hg : g ∈ h.rounds autoResume limit) : g.AtWork := by
  induction limit generalizing h with
  | zero => cases hg
  | succ limit ih =>
    rcases hwork.goesOn_or_ends autoResume with ⟨next, hgoes⟩ | hends
    · rw [rounds_of_onward hgoes.onward] at hg
      rcases List.mem_cons.mp hg with rfl | hg
      · exact hwork
      · exact ih hgoes.work hg
    · rw [rounds_of_no_onward hends.onward] at hg
      rw [List.mem_singleton.mp hg]
      exact hwork

theorem answer_ne_idle (hwork : h.AtWork) : h.tick.answer.primary ≠ .ok .idle := by
  rcases hwork.tick_cases hwork.normal with ⟨e, hanswer⟩ | ⟨hanswer, -⟩ | ⟨hanswer, -⟩ |
    ⟨hanswer, -⟩ <;> rw [hanswer] <;> nofun

theorem resumes (hwork : h.AtWork) (hsuspended : h.tick.answer.primary = .ok .suspended) :
    (h.tick.state.onPrimary Action.resume).answer = .ok () := by
  rcases hwork.tick_cases hwork.normal with ⟨e, hanswer⟩ | ⟨hanswer, -⟩ |
    ⟨-, hpaused, cursor, hparked⟩ | ⟨hanswer, -⟩
  · cases hanswer.symm.trans hsuspended
  · cases hanswer.symm.trans hsuspended
  · exact (hwork.tick.resume hpaused hparked).1
  · cases hanswer.symm.trans hsuspended

theorem answer_ne_disabled (hwork : h.AtWork) : h.tick.answer.primary ≠ .error .disabled := by
  intro hdisabled
  have hfound : (h.found .primary).table = .core := hwork.core
  have hfatal : Fault.disabled.isFatal = true := Action.isFatal_of_step hfound hdisabled
  cases hfatal

/-! ## What holds of all rounds together -/

theorem ticks_of_rounds (hwork : h.AtWork) {k : Nat}
    (hg : (h.rounds autoResume limit)[k]? = some g) : g.ticks = h.ticks + UInt64.ofNat k := by
  induction limit generalizing h k with
  | zero => cases hg
  | succ limit ih =>
    rcases hwork.goesOn_or_ends autoResume with ⟨next, hgoes⟩ | hends
    · rw [rounds_of_onward hgoes.onward] at hg
      rcases k with _ | k
      · cases hg
        exact (UInt64.add_zero _).symm
      · have hlater : g.ticks = next.ticks + UInt64.ofNat k := ih hgoes.work hg
        rw [hlater, hgoes.ticks, UInt64.add_assoc, Nat.add_comm k, UInt64.ofNat_add 1]
        rfl
    · rw [rounds_of_no_onward hends.onward] at hg
      rcases k with _ | k
      · cases hg
        exact (UInt64.add_zero _).symm
      · cases hg

theorem ticks_runTicks (hwork : h.AtWork) (autoResume : Bool) (limit : Nat)
    (before : StepOutcome) :
    (h.runTicks autoResume limit before).host.ticks =
      h.ticks + UInt64.ofNat (h.rounds autoResume limit).length := by
  induction limit generalizing h before with
  | zero => exact (UInt64.add_zero _).symm
  | succ limit ih =>
    rcases hwork.goesOn_or_ends autoResume with ⟨next, hgoes⟩ | hends
    · obtain ⟨outcome, front, -, -, hrun⟩ := hgoes.run
      rw [hrun, RunResult.behind, ih hgoes.work, hgoes.ticks, rounds_of_onward hgoes.onward,
        List.length_cons, UInt64.add_assoc, Nat.add_comm, UInt64.ofNat_add]
      rfl
    · obtain ⟨front, -, hrun⟩ := hends.run
      rw [hrun, rounds_of_no_onward hends.onward]
      rfl

/-- **A run answers as its last tick does.** -/
theorem result_runTicks (hwork : h.AtWork) (autoResume : Bool) (limit : Nat)
    (before : StepOutcome) :
    (h.runTicks autoResume limit before).result =
      lastAnswer before ((h.rounds autoResume limit).map sight) := by
  induction limit generalizing h before with
  | zero => rfl
  | succ limit ih =>
    rcases hwork.goesOn_or_ends autoResume with ⟨next, hgoes⟩ | hends
    · obtain ⟨outcome, front, hanswer, -, hrun⟩ := hgoes.run
      rw [hrun, rounds_of_onward hgoes.onward, List.map_cons, lastAnswer_cons hanswer]
      exact ih hgoes.work outcome
    · obtain ⟨front, -, hrun⟩ := hends.run
      rw [hrun, rounds_of_no_onward hends.onward]
      rfl

end AtWork

end Host

/-! ## Runs -/

/-- A counter that does not wrap around counts. -/
theorem toNat_add_ofNat {counter : UInt64} {n : Nat} (h : counter.toNat + n < UInt64.size) :
    (counter + UInt64.ofNat n).toNat = counter.toNat + n := by
  have hn : (UInt64.ofNat n).toNat = n := UInt64.toNat_ofNat_of_lt' (by omega)
  rw [UInt64.toNat_add, hn]
  exact Nat.mod_eq_of_lt h

theorem lastAnswer_eq_error_iff (before : StepOutcome) {seen : List Observation} {e : Fault} :
    lastAnswer before seen = .error e ↔
      ∃ last, seen.getLast? = some last ∧ last.report.primary = .error e := by
  rw [lastAnswer]
  rcases seen.getLast? with _ | last <;> simp

variable [CommandSet κ] [Handlers κ] [CoreHandlers κ]

namespace Host

variable {h : Host κ} (hon : h.primary.enabled = true) (script : Script) (limit : Nat)
  (autoResume : Bool)

include hon

theorem ticks_runScript :
    let run := h.runScript script limit autoResume
    run.host.ticks = h.ticks + UInt64.ofNat (observations run.transcript).length := by
  intro run
  have hwork : (h.launched script).AtWork := atWork_launched hon script
  have hhost : run.host = ((h.launched script).runTicks autoResume limit .running).host :=
    (runScript_of_enabled hon script limit autoResume).2.1
  rw [hhost, hwork.ticks_runTicks, observations_runScript, if_pos hon, List.length_map]
  rfl

theorem result_runScript_eq_error_iff {e : Fault} :
    (h.runScript script limit autoResume).result = .error e ↔
      ∃ last, (observations (h.runScript script limit autoResume).transcript).getLast? = some last ∧
        last.report.primary = .error e := by
  have hwork : (h.launched script).AtWork := atWork_launched hon script
  have hresult : (h.runScript script limit autoResume).result.map RunSummary.outcome =
      ((h.launched script).runTicks autoResume limit .running).result :=
    (runScript_of_enabled hon script limit autoResume).1
  rw [← lastAnswer_eq_error_iff .running, observations_runScript, if_pos hon,
    ← hwork.result_runTicks, ← hresult]
  rcases (h.runScript script limit autoResume).result with _ | _ <;> simp [Except.map]

theorem result_runScript_ne_disabled :
    (h.runScript script limit autoResume).result ≠ .error .disabled := by
  rw [ne_eq, result_runScript_eq_error_iff hon, observations_runScript, if_pos hon]
  rintro ⟨last, hlast, hanswer⟩
  obtain ⟨g, hg, rfl⟩ := List.mem_map.mp (List.mem_of_getLast? hlast)
  exact ((atWork_launched hon script).of_mem_rounds hg).answer_ne_disabled hanswer

end Host

/-- **A run fails only by a fault of its script.** It answers that the primary context is switched
off exactly if it is, and then no tick was made and the host is as it was. Otherwise an onlooker
sees every tick once, numbered in order, and no more of them than the limit allows; in none of them
the primary context is idle, resuming the script always succeeds, and if the run fails it fails with
the answer of the last tick. The numbers are of 64 bits, and they are the numbers of the ticks as
long as the counter of the host does not wrap around. -/
theorem run_fails_only_by_fault (h : Host κ) (script : Script) (limit : Nat) (autoResume : Bool) :
    let run := h.runScript script limit autoResume
    let seen := observations run.transcript
    (run.result = .error .disabled ↔ h.primary.enabled = false) ∧
    (h.primary.enabled = false → run.host = h ∧ seen = []) ∧
    (h.primary.enabled = true →
      let rounds := (h.launched script).rounds autoResume limit
      seen = rounds.map Host.sight ∧
      run.host.ticks = h.ticks + UInt64.ofNat seen.length ∧ seen.length ≤ limit ∧
      (∀ k last, seen[k]? = some last →
        last.report.tick = h.ticks + UInt64.ofNat (k + 1)) ∧
      (h.ticks.toNat + seen.length < UInt64.size →
        run.host.ticks.toNat = h.ticks.toNat + seen.length ∧
        ∀ k last, seen[k]? = some last → last.report.tick.toNat = h.ticks.toNat + (k + 1)) ∧
      (∀ g ∈ rounds, g.tick.answer.primary ≠ .ok .idle ∧
        (g.tick.answer.primary = .ok .suspended →
          (g.tick.state.onPrimary Action.resume).answer = .ok ())) ∧
      ∀ e, run.result = .error e ↔
        ∃ last, seen.getLast? = some last ∧ last.report.primary = .error e) := by
  intro run seen
  cases hon : h.primary.enabled with
  | false =>
    obtain ⟨front, hfront, hrun⟩ := Host.runScript_of_disabled hon script
    have hthis : run = ⟨.error .disabled, h, front⟩ := hrun limit autoResume
    refine ⟨iff_of_true (by rw [hthis]) rfl, fun _ ↦ ⟨by rw [hthis], ?_⟩, nofun⟩
    rw [show seen = observations run.transcript from rfl, hthis]
    exact hfront
  | true =>
    have hwork : (h.launched script).AtWork := Host.atWork_launched hon script
    have hseen : seen = ((h.launched script).rounds autoResume limit).map Host.sight := by
      rw [show seen = _ from h.observations_runScript script limit autoResume, if_pos hon]
    have hticks : run.host.ticks = h.ticks + UInt64.ofNat seen.length :=
      Host.ticks_runScript hon script limit autoResume
    have hnumber : ∀ k last, seen[k]? = some last →
        last.report.tick = h.ticks + UInt64.ofNat (k + 1) := by
      intro k last hlast
      rw [hseen, List.getElem?_map, Option.map_eq_some_iff] at hlast
      obtain ⟨g, hg, rfl⟩ := hlast
      have hbefore : g.ticks = h.ticks + UInt64.ofNat k := hwork.ticks_of_rounds hg
      rw [UInt64.ofNat_add, ← UInt64.add_assoc, ← hbefore]
      rfl
    refine ⟨iff_of_false (Host.result_runScript_ne_disabled hon script limit autoResume) nofun,
      nofun, fun _ ↦ ⟨hseen, hticks, ?_, hnumber, fun hbound ↦ ⟨?_, fun k last hlast ↦ ?_⟩, ?_,
        fun e ↦ Host.result_runScript_eq_error_iff hon script limit autoResume⟩⟩
    · rw [hseen, List.length_map]
      exact Host.length_rounds_le autoResume limit (h.launched script)
    · rw [hticks]
      exact toNat_add_ofNat hbound
    · obtain ⟨hk, -⟩ := List.getElem?_eq_some_iff.mp hlast
      rw [hnumber k last hlast]
      exact toNat_add_ofNat (by omega)
    · intro g hg
      have hthen : g.AtWork := hwork.of_mem_rounds hg
      exact ⟨hthen.answer_ne_idle, hthen.resumes⟩

/-- The core commands, and one that makes a dispatch unit of its own before it ends. -/
inductive DoublingCommand where
  | core (op : Opcode)
  | double

namespace DoublingCommand

/-- What these commands do if no step is made inside a step. -/
def routine : DoublingCommand → Program DoublingCommand Verdict
  | core op => Command.core op
  | double => .done .proceed

/-- What these commands do. -/
def handler : DoublingCommand → Handler DoublingCommand Verdict
  | core op => .ofProgram (Command.core op)
  | double => .stepOnce fun _ ↦ .done .proceed

instance : CommandSet DoublingCommand where
  core := .core
  routine := routine
  routine_core := fun _ ↦ rfl

/-- Steps inside a step are made, and none inside these. -/
instance : Handlers DoublingCommand :=
  .ofHandler handler (nested handler ⟨return .idle, return .idle⟩ 1)

instance : CoreHandlers DoublingCommand := coreHandlers_ofHandler (fun _ ↦ rfl) _

/-- The core table with the other command behind it. -/
def table : CommandTable DoublingCommand :=
  (CommandTable.derive "doubling" .core).register 0x12 .double

/-- The script of the level context. -/
def script : Script := .ofBytes 0 [0x12, 0x00, 0x00, 0x00]

/-- A host in whose level context it is started. -/
def host : Host DoublingCommand := ((Host.new {}).onLevel (Action.start script table)).state

end DoublingCommand

/-- The level context runs a script of its own, two instructions in the first tick. The one of the
primary context waits, is resumed, and returns in the second tick with nothing to return to. -/
theorem run_fails_only_by_fault_resumed :
    let run := DoublingCommand.host.runScript (.ofBytes 0 [0x0b, 0x02]) 5 true
    let seen := observations run.transcript
    DoublingCommand.host.tick.state.level.activity = .script ⟨DoublingCommand.script, 2⟩ ∧
    seen.map (fun o ↦ (o.report.tick, o.report.level, o.report.primary)) =
      [(1, .ok .running, .ok .suspended), (2, .ok .running, .error .stackUnderflow)] ∧
    run.result = .error .stackUnderflow ∧
    (∃ last, seen.getLast? = some last ∧ last.report.primary = .error .stackUnderflow) ∧
    run.host.ticks.toNat = DoublingCommand.host.ticks.toNat + seen.length ∧ seen.length ≤ 5 := by
  obtain ⟨-, -, hon⟩ :=
    run_fails_only_by_fault DoublingCommand.host (.ofBytes 0 [0x0b, 0x02]) 5 true
  obtain ⟨-, -, hlimit, -, hcounts, -, hfails⟩ := hon rfl
  exact ⟨by decide +kernel, by decide +kernel, by decide +kernel,
    (hfails .stackUnderflow).mp (by decide +kernel), (hcounts (by decide +kernel)).1, hlimit⟩

end EventScript
