import EventScript.Proofs.CoreCommands
import EventScript.Proofs.Frame

/-!
# What a step leaves alone

A request changes only the parts of a machine that it touches. This file carries the fact from
requests to commands and from commands to steps, so that "a step under this table cannot change that
part" is a matter of looking at the commands of the table.

## From commands to steps

A step has some business of its own: it moves the cursor, parks and stops the script, and records a
fault. What lies outside these parts can only be changed by a command, and which commands there are
is settled by the bound table. The table is therefore always among the parts that are shown to be
left alone; a command that bound another one could bring in commands about which nothing is known.
-/

namespace EventScript

variable {κ α : Type}

theorem Machine.AgreeIn.trans {m n k : Machine κ} {part : Part} (h : m.AgreeIn n part)
    (h' : n.AgreeIn k part) : m.AgreeIn k part := by
  cases part <;> exact Eq.trans h' h

/-! ## Commands -/

theorem Program.agreeIn {p : Program κ α} {part : Part} (h : p.All fun r ↦ part ∉ r.touched)
    (m : Machine κ) : m.AgreeIn (p.perform.run m).machine part := by
  have hkeep : ∀ r : Request κ, part ∉ r.touched →
      Action.Preserves (fun n ↦ m.AgreeIn n part) r.perform :=
    fun r hr n hn ↦ hn.trans (Request.agreeIn hr n)
  exact Program.preserves_of_all h hkeep m (.refl m part)

/-- The parts that the command of a core opcode may change. -/
def Opcode.touched : Opcode → List Part
  | .nop | .wait => []
  | .stop => [.activity, .parked]
  | .ret | .call | .callIf => [.activity, .callStack]
  | .goto | .gotoIf => [.activity]
  | .loadBank | .addBank | .copyBank | .loadTemp => [.activity, .banks]
  | .compareBank => [.activity, .comparison]
  | .lockInput => [.inputControl]
  | .releaseInput => [.inputControl, .direction]
  | .face => [.activity, .direction]
  | .setTemp | .storeTemp => [.activity, .temporaries]

theorem Opcode.setup_untouched {part : Part}
    (h : part ∈ [Part.name, .table, .enabled, .policy, .budget]) (op : Opcode) :
    part ∉ op.touched := by
  simp only [List.mem_cons, List.not_mem_nil, or_false] at h
  rcases h with rfl | rfl | rfl | rfl | rfl <;> cases op <;> simp [touched]

theorem Opcode.eq_of_temporaries_touched {op : Opcode} (h : .temporaries ∈ op.touched) :
    op = .setTemp ∨ op = .storeTemp := by
  cases op <;> simp [touched] at h ⊢

namespace Command

open Program

theorem all_readCondition_touched :
    (readCondition : Program κ Condition).All fun r ↦ r.touched ⊆ [.activity] := by
  refine all_send_bind (by simp [Request.touched]) fun context ↦ ?_
  refine all_send_bind (by simp [Request.touched]) fun code ↦ ?_
  cases Condition.ofByte code <;> trivial

/-- **Core commands touch what their opcodes say.** -/
theorem all_touched (op : Opcode) :
    (core op : Program κ Verdict).All fun r ↦ r.touched ⊆ op.touched := by
  have hsend : ∀ {r : Request κ} {f : r.Answer → Program κ Verdict}, r.touched ⊆ op.touched →
      (∀ a, (f a).All fun r ↦ r.touched ⊆ op.touched) →
        (send r >>= f).All fun r ↦ r.touched ⊆ op.touched := fun hr hf ↦ all_send_bind hr hf
  cases op with
  | nop | wait => trivial
  | stop | ret | lockInput =>
    exact hsend (by simp [Request.touched, Opcode.touched]) fun _ ↦ trivial
  | call | goto | releaseInput | face =>
    refine hsend (by simp [Request.touched, Opcode.touched]) fun _ ↦ ?_
    exact hsend (by simp [Request.touched, Opcode.touched]) fun _ ↦ trivial
  | gotoIf | callIf =>
    refine all_bind (all_mono all_readCondition_touched fun r hr ↦ ?_) fun condition ↦ ?_
    · exact List.Subset.trans hr (by simp [Opcode.touched])
    refine hsend (by simp [Request.touched, Opcode.touched]) fun target ↦ ?_
    refine all_bind (all_send_bind (by simp [Request.touched]) fun _ ↦ trivial) fun taken ↦ ?_
    rcases taken with _ | _
    · trivial
    · exact hsend (by simp [Request.touched, Opcode.touched]) fun _ ↦ trivial
  | loadBank | setTemp =>
    refine hsend (by simp [Request.touched, Opcode.touched]) fun _ ↦ ?_
    refine hsend (by simp [Request.touched, Opcode.touched]) fun _ ↦ ?_
    exact hsend (by simp [Request.touched, Opcode.touched]) fun _ ↦ trivial
  | compareBank | addBank | copyBank | loadTemp | storeTemp =>
    refine hsend (by simp [Request.touched, Opcode.touched]) fun _ ↦ ?_
    refine hsend (by simp [Request.touched, Opcode.touched]) fun _ ↦ ?_
    refine hsend (by simp [Request.touched, Opcode.touched]) fun _ ↦ ?_
    exact hsend (by simp [Request.touched, Opcode.touched]) fun _ ↦ trivial

theorem all_untouched {op : Opcode} {part : Part} (h : part ∉ op.touched) :
    (core op : Program κ Verdict).All fun r ↦ part ∉ r.touched :=
  all_mono (all_touched op) fun _ hr hpart ↦ h (hr hpart)

end Command

theorem Action.agreeIn_core [CommandSet κ] [Handlers κ] [CoreHandlers κ] {op : Opcode} {part : Part}
    (h : part ∉ op.touched) (m : Machine κ) :
    m.AgreeIn ((Handlers.handle (CommandSet.core op : κ)).run m).machine part := by
  rw [CoreHandlers.handle_core]
  exact Program.agreeIn (Command.all_untouched h) m

/-! ## Steps -/

/-- The part may be changed by a step without the help of a command. -/
def Part.OfStep (part : Part) : Prop := part ∈ [Part.activity, .parked, .lastFault]

namespace Action

/-- Any number of stable properties are stable together. -/
theorem StableUnderStep.all {ι : Type} {p : ι → Prop} {Q : ι → Machine κ → Prop}
    (h : ∀ i, p i → StableUnderStep (Q i)) : StableUnderStep (fun m ↦ ∀ i, p i → Q i m) where
  fetch := fun m hm i hi ↦ (h i hi).fetch m (hm i hi)
  park := fun m hm i hi ↦ (h i hi).park m (hm i hi)
  stop := fun m hm i hi ↦ (h i hi).stop m (hm i hi)
  fault := fun e m hm i hi ↦ (h i hi).fault e m (hm i hi)
  poll := fun task m htask hm i hi ↦ (h i hi).poll task m htask (hm i hi)

/-- What a step does by itself stays in its own parts. -/
theorem stableUnderStep_agreeIn (origin : Machine κ) {part : Part} (h : ¬part.OfStep) :
    StableUnderStep (fun m ↦ origin.AgreeIn m part) where
  fetch := by
    intro m hm
    refine hm.trans (Request.agreeIn (r := .readU8) (fun hpart ↦ h ?_) m)
    rw [List.mem_singleton.mp hpart]
    exact List.mem_cons_self
  park := by
    intro m hm
    refine hm.trans ?_
    unfold park
    dsimp only
    split
    · cases part <;> simp [Part.OfStep] at h <;> rfl
    · exact .refl m part
  stop := by
    intro m hm
    refine hm.trans (Request.agreeIn (r := .stop) (fun hpart ↦ h ?_) m)
    simp only [Request.touched, List.mem_cons, List.not_mem_nil, or_false] at hpart
    rcases hpart with rfl | rfl <;> simp [Part.OfStep]
  fault := by
    intro e m hm
    refine hm.trans ?_
    cases part <;> simp [Part.OfStep] at h <;> rfl
  poll := by
    intro task m _ hm
    refine hm.trans ?_
    unfold pollNative
    split <;> cases part <;> simp [Part.OfStep] at h <;> rfl

variable [Handlers κ]

/-- **What a step leaves alone.** Parts that are not the business of a step, the table among them,
are left alone by a step if they are by all commands that the table has. -/
theorem agreeIn_stepUpTo {m : Machine κ} {parts : List Part} (hparts : ∀ part ∈ parts, ¬part.OfStep)
    (htable : .table ∈ parts)
    (hcommands : ∀ opcode command, m.table.lookup opcode = .ok command → ∀ part ∈ parts,
      ∀ n : Machine κ, n.AgreeIn ((Handlers.handle command).run n).machine part) (budget : Nat) :
    ∀ part ∈ parts, m.AgreeIn ((stepUpTo budget).run m).machine part := by
  let P : Machine κ → Prop := fun n ↦ ∀ part ∈ parts, m.AgreeIn n part
  have hstable : StableUnderStep P :=
    StableUnderStep.all fun part hpart ↦ stableUnderStep_agreeIn m (hparts part hpart)
  have hkeep : CommandsPreserve P := by
    intro n opcode command hn _ hlookup part hpart
    have hsame : n.table = m.table := hn .table htable
    rw [hsame] at hlookup
    exact (hn part hpart).trans (hcommands opcode command hlookup part hpart n)
  exact hstable.stepUpTo hkeep budget m fun part _ ↦ .refl m part

theorem agreeIn_step {m : Machine κ} {parts : List Part} (hparts : ∀ part ∈ parts, ¬part.OfStep)
    (htable : .table ∈ parts)
    (hcommands : ∀ opcode command, m.table.lookup opcode = .ok command → ∀ part ∈ parts,
      ∀ n : Machine κ, n.AgreeIn ((Handlers.handle command).run n).machine part) :
    ∀ part ∈ parts, m.AgreeIn (step.run m).machine part := by
  rw [run_step]
  exact agreeIn_stepUpTo hparts htable hcommands _

end Action

end EventScript
