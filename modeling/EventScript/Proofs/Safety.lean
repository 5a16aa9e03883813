import EventScript.Proofs.Batching
import EventScript.Proofs.Layout
import EventScript.Proofs.Soundness

/-!
# Linked programs cannot go wrong

A program laid out by the assembler is *linked* when each of its addresses is a boundary: the place
where one of its instructions begins, or the end of the script. Such a program never makes a step
fail because of its bytes, however the host steps it, stops it, resumes it or meddles with its
variables.

## The invariant

All cursors of the context are aligned: they lie in the script of the program, at boundaries. An
instruction read at a boundary leaves the cursor at the next one, its address is a boundary because
the program is linked, and the other cursors it leaves behind were there before. So alignment
survives every instruction, although it does not survive the reading of a single byte; the unit of
the argument is the instruction, as `Instruction.execute` has it.
-/

namespace EventScript

variable {κ : Type}

/-- An instruction of the program begins at the offset, or the program ends there. -/
def Boundary (program : List Instruction) (offset : Nat) : Prop :=
  ∃ front back, program = front ++ back ∧ offset = (Assembler.empty.program front).offset

/-- Every address in the program is a boundary. -/
def Linked (program : List Instruction) : Prop :=
  ∀ i ∈ program, ∀ address ∈ i.target?, Boundary program address.toNat

/-! ## Boundaries -/

section boundaries

variable {program : List Instruction} {offset : Nat}

theorem Boundary.start (program : List Instruction) : Boundary program 0 := ⟨[], program, rfl, rfl⟩

theorem Boundary.le_length (id : Nat) (h : Boundary program offset) :
    offset ≤ (assembled id program).length := by
  obtain ⟨front, back, rfl, rfl⟩ := h
  rw [offset_program, Script.length, ← Array.length_toList, toList_assembled, List.flatMap_append,
    List.length_append]
  exact Nat.le_add_right _ _

end boundaries

/-- The cursor lies in the script of the program, at a boundary. -/
structure Cursor.Aligned (id : Nat) (program : List Instruction) (c : Cursor) : Prop where
  /-- It is a place in the script. -/
  script : c.script = assembled id program
  /-- It is a boundary. -/
  boundary : Boundary program c.offset

/-- **What an aligned cursor sees.** Either nothing is left, or an instruction of the program stands
in front of the cursor and the place behind it is aligned again. -/
theorem Cursor.Aligned.rest_cases {id : Nat} {program : List Instruction} {c : Cursor}
    (h : c.Aligned id program) :
    c.rest = [] ∨ ∃ i ∈ program, ∃ back, c.rest = i.encode ++ back ∧
      (c.advance i.opcode.size).Aligned id program := by
  obtain ⟨front, back, hprogram, hoffset⟩ := h.boundary
  have hrest : c.rest = back.flatMap Instruction.encode := by
    rw [rest, h.script, toList_assembled, hprogram, List.flatMap_append, hoffset, offset_program,
      List.drop_left]
  cases back with
  | nil => exact .inl hrest
  | cons i others =>
    -- The next boundary is reached by moving the instruction over to the front part.
    refine .inr ⟨i, by rw [hprogram]; simp, others.flatMap Instruction.encode, hrest, h.script, ?_⟩
    refine ⟨front ++ [i], others, by rw [hprogram]; simp, ?_⟩
    rw [offset_advance, hoffset, offset_program, offset_program, List.flatMap_append,
      List.length_append, List.flatMap_singleton, Instruction.length_encode]

/-! ## Faults of instructions -/

namespace Instruction

/-- The banks that an instruction names. -/
def banks : Instruction → List UInt8
  | loadBank bank _ | compareBank bank _ | addBank bank _ | loadTemp bank _ | storeTemp _ bank =>
    [bank]
  | copyBank destination source => [destination, source]
  | _ => []

/-- The temporaries that an instruction names. -/
def temporaries : Instruction → List UInt16
  | setTemp id _ | loadTemp _ id | storeTemp id _ => [id]
  | _ => []

/-- The faults that an instruction may come to once its address has been found: each is about an
operand of its own, or about the call stack if the instruction uses it. -/
def MayFail (i : Instruction) : Fault → Prop
  | .stackOverflow capacity => capacity = stackCapacity ∧ (i.opcode = .call ∨ i.opcode = .callIf)
  | .stackUnderflow => i = ret
  | .invalidBankIndex index => 4 ≤ index ∧ ∃ bank ∈ i.banks, bank.toNat = index
  | .invalidTemporary id => id ∈ i.temporaries ∧ id ∉ Temporaries.ids
  | _ => False

/-- The banks and temporaries that the instruction names exist. -/
structure Valid (i : Instruction) : Prop where
  /-- The banks exist. -/
  banks : ∀ bank ∈ i.banks, bank.toNat < 4
  /-- The temporaries exist. -/
  temporaries : ∀ id ∈ i.temporaries, id ∈ Temporaries.ids

theorem mayFail_of_bank {i : Instruction} {bank : UInt8} (hbank : bank ∈ i.banks)
    (h : 4 ≤ bank.toNat) : i.MayFail (.invalidBankIndex bank.toNat) :=
  ⟨h, bank, hbank, rfl⟩

theorem mayFail_of_temporary {i : Instruction} {id : UInt16} (hid : id ∈ i.temporaries)
    (h : id ∉ Temporaries.ids) : i.MayFail (.invalidTemporary id) :=
  ⟨hid, h⟩

theorem MayFail.ne_corruptProgram {i : Instruction} {e : Fault} (h : i.MayFail e) (offset : Nat)
    (kind : Corruption) : e ≠ .corruptProgram offset kind := by
  rintro rfl
  exact h

/-- With operands that exist only the call stack is left to fail. -/
theorem MayFail.eq_of_valid {i : Instruction} {e : Fault} (h : i.MayFail e) (hi : i.Valid) :
    e = .stackOverflow stackCapacity ∨ e = .stackUnderflow := by
  cases e with
  | stackOverflow capacity => exact .inl (congrArg Fault.stackOverflow h.1)
  | stackUnderflow => exact .inr rfl
  | invalidBankIndex index =>
    obtain ⟨hindex, bank, hbank, rfl⟩ := h
    exact absurd (hi.banks bank hbank) (Nat.not_lt.mpr hindex)
  | invalidTemporary id => exact absurd (hi.temporaries id h.1) h.2
  | disabled | corruptProgram _ _ | notRunning _ | nothingToResume => exact h.elim

end Instruction

/-! ## Aligned machines -/

/-- The machine is bound to the core table, waits for no native task, and all its cursors are
aligned. -/
structure Machine.Aligned [CommandSet κ] (id : Nat) (program : List Instruction) (m : Machine κ) :
    Prop where
  /-- The core table is bound. -/
  table : m.table = .core
  /-- There is no native task. -/
  scripted : m.mode ≠ .native
  /-- The cursors are aligned. -/
  cursors : ∀ c ∈ m.cursors, c.Aligned id program

variable [CommandSet κ] {id : Nat} {program : List Instruction} {m n : Machine κ} {c : Cursor}

namespace Machine.Aligned

open Context

/-- Only the table, the activity and the other cursors matter. -/
theorem of_eq (h : m.Aligned id program) (htable : n.table = m.table)
    (hactivity : n.activity = m.activity) (hparked : n.parked = m.parked)
    (hstack : n.callStack = m.callStack) : n.Aligned id program where
  table := htable.trans h.table
  scripted := by
    rw [mode, hactivity]
    exact h.scripted
  cursors := by
    intro d hd
    rw [mem_cursors_iff, hactivity, hparked, hstack, ← mem_cursors_iff] at hd
    exact h.cursors d hd

theorem of_activity (h : m.Aligned id program) (hc : m.activity = .script c) :
    c.Aligned id program :=
  h.cursors c (mem_cursors_iff.mpr (.inl hc))

theorem of_parked (h : m.Aligned id program) (hc : m.parked = some c) : c.Aligned id program :=
  h.cursors c (mem_cursors_iff.mpr (.inr (.inl hc)))

theorem of_mem (h : m.Aligned id program) (hc : c ∈ m.callStack) : c.Aligned id program :=
  h.cursors c (mem_cursors_iff.mpr (.inr (.inr hc)))

/-- An aligned machine may go on at any aligned place, with any aligned call stack. -/
theorem running (h : m.Aligned id program) (hc : c.Aligned id program) {stack : List Cursor}
    (hstack : ∀ d ∈ stack, d.Aligned id program) :
    { m with activity := .script c, callStack := stack }.Aligned id program where
  table := h.table
  scripted := nofun
  cursors := by
    intro d hd
    rcases mem_cursors_iff.mp hd with hd | hd | hd
    · cases hd
      exact hc
    · exact h.of_parked hd
    · exact hstack d hd

theorem movedTo (h : m.Aligned id program) (hc : c.Aligned id program) :
    (m.movedTo c).Aligned id program :=
  h.running hc fun _ hd ↦ h.of_mem hd

theorem resting (h : m.Aligned id program) {parked : Option Cursor}
    (hparked : ∀ d ∈ parked, d.Aligned id program) :
    { m with activity := .paused, parked := parked }.Aligned id program where
  table := h.table
  scripted := nofun
  cursors := by
    intro d hd
    rcases mem_cursors_iff.mp hd with hd | hd | hd
    · cases hd
    · exact hparked d hd
    · exact h.of_mem hd

theorem halted (h : m.Aligned id program) : { m with toContext := m.halted }.Aligned id program :=
  h.resting nofun

theorem faulted (h : m.Aligned id program) (e : Fault) : (m.faulted e).Aligned id program :=
  h.halted.of_eq rfl rfl rfl rfl

end Machine.Aligned

/-! ## Operations on aligned machines -/

namespace Action

open Machine

variable {F : Fault → Prop}

theorem meets_stop (hm : m.Aligned id program) : (stop.run m).Meets (Aligned id program) F :=
  (.ok hm.halted)

theorem meets_readBank {bank : Nat} (hm : m.Aligned id program)
    (hF : 4 ≤ bank → F (.invalidBankIndex bank)) :
    ((readBank bank).run m).Meets (Aligned id program) F := by
  by_cases hbank : bank < 4
  · simp only [readBank, hbank, dif_pos]
    exact .ok hm
  · simp only [readBank, hbank, dif_neg, not_false_eq_true]
    exact .error hm (hF (Nat.not_lt.mp hbank))

theorem meets_writeBank {bank : Nat} {value : UInt32} (hm : m.Aligned id program)
    (hF : 4 ≤ bank → F (.invalidBankIndex bank)) :
    ((writeBank bank value).run m).Meets (Aligned id program) F := by
  by_cases hbank : bank < 4
  · simp only [writeBank, hbank, dif_pos]
    exact .ok (hm.of_eq rfl rfl rfl rfl)
  · simp only [writeBank, hbank, dif_neg, not_false_eq_true]
    exact .error hm (hF (Nat.not_lt.mp hbank))

theorem meets_readTemporary {var : UInt16} (hm : m.Aligned id program)
    (hF : var ∉ Temporaries.ids → F (.invalidTemporary var)) :
    ((readTemporary var).run m).Meets (Aligned id program) F := by
  cases hslot : Temporaries.slot? var with
  | none =>
    simp only [readTemporary, Temporaries.get, hslot]
    exact .error hm (hF (Temporaries.notMem_ids_of_slot? hslot))
  | some i =>
    simp only [readTemporary, Temporaries.get, hslot]
    exact .ok hm

theorem meets_writeTemporary {var value : UInt16} (hm : m.Aligned id program)
    (hF : var ∉ Temporaries.ids → F (.invalidTemporary var)) :
    ((writeTemporary var value).run m).Meets (Aligned id program) F := by
  cases hslot : Temporaries.slot? var with
  | none =>
    simp only [writeTemporary, Temporaries.set, hslot]
    exact .error hm (hF (Temporaries.notMem_ids_of_slot? hslot))
  | some i =>
    simp only [writeTemporary, Temporaries.set, hslot]
    exact .ok (hm.of_eq rfl rfl rfl rfl)

theorem meets_jump {target : Cursor} (hm : (m.movedTo c).Aligned id program)
    (htarget : target.Aligned id program) :
    ((jump target).run (m.movedTo c)).Meets (Aligned id program) F := by
  simp only [jump, activity_movedTo]
  exact .ok (hm.movedTo htarget)

theorem meets_call {target : Cursor} (hm : (m.movedTo c).Aligned id program)
    (htarget : target.Aligned id program) (hF : F (.stackOverflow stackCapacity)) :
    ((call target).run (m.movedTo c)).Meets (Aligned id program) F := by
  simp only [call, activity_movedTo]
  split
  · refine .ok (hm.running htarget fun d hd ↦ ?_)
    rcases List.mem_cons.mp hd with rfl | hd
    · exact hm.of_activity rfl
    · exact hm.of_mem hd
  · exact .error hm hF

theorem meets_ret (hm : (m.movedTo c).Aligned id program) (hF : F .stackUnderflow) :
    (ret.run (m.movedTo c)).Meets (Aligned id program) F := by
  cases hstack : m.callStack with
  | nil =>
    simp only [ret, activity_movedTo, callStack_movedTo, hstack]
    exact .error hm hF
  | cons d rest =>
    have hall : ∀ x ∈ d :: rest, x.Aligned id program := by
      intro x hx
      exact hm.of_mem (by rw [callStack_movedTo, hstack]; exact hx)
    simp only [ret, activity_movedTo, callStack_movedTo, hstack]
    exact .ok (hm.running (hall d List.mem_cons_self) fun x hx ↦ hall x (List.mem_cons_of_mem d hx))

theorem meets_resolve_bind {address : UInt32} {f : Cursor → Action κ Verdict}
    (hm : (m.movedTo c).Aligned id program) (haddress : Boundary program address.toNat)
    (hf : ∀ target, target.Aligned id program →
      ((f target).run (m.movedTo c)).Meets (Aligned id program) F) :
    ((resolve address >>= f).run (m.movedTo c)).Meets (Aligned id program) F := by
  have hscript : c.script = assembled id program := (hm.of_activity rfl).script
  have hle : address.toNat ≤ c.script.length := by
    rw [hscript]
    exact haddress.le_length id
  have hresolve : (resolve address).run (m.movedTo c) =
      ⟨.ok ⟨c.script, address.toNat⟩, m.movedTo c, []⟩ := by
    -- A boundary is never beyond the end, so the check of the address succeeds.
    simp only [resolve, activity_movedTo, hle, if_true]
  refine Reply.Meets.bind (by rw [hresolve]; exact .ok hm) ?_
  rw [hresolve]
  rintro _ ⟨⟩
  exact hf _ ⟨hscript, haddress⟩

end Action

/-! ## Instructions and dispatch units -/

open EventScript.Action Machine

/-- **An instruction keeps a machine aligned** and fails only on its own account. -/
theorem Instruction.meets_execute {i : Instruction} (hm : (m.movedTo c).Aligned id program)
    (haddress : ∀ address ∈ i.target?, Boundary program address.toNat) :
    (i.execute.run (m.movedTo c)).Meets (Aligned id program) i.MayFail := by
  cases i with
  | nop | wait => exact .ok hm
  | stop => exact (meets_stop hm).bind_pure
  | ret => exact (meets_ret (F := ret.MayFail) hm rfl).bind_pure
  | call address =>
    refine meets_resolve_bind hm (haddress address rfl) fun target htarget ↦ ?_
    exact (meets_call hm htarget ⟨rfl, .inl rfl⟩).bind_pure
  | goto address =>
    refine meets_resolve_bind hm (haddress address rfl) fun target htarget ↦ ?_
    exact (meets_jump hm htarget).bind_pure
  | gotoIf condition address =>
    refine meets_resolve_bind hm (haddress address rfl) fun target htarget ↦ ?_
    refine Reply.Meets.bind (a := machine) (.ok hm) ?_
    rintro _ ⟨⟩
    split
    · exact (meets_jump hm htarget).bind_pure
    · exact .ok hm
  | callIf condition address =>
    refine meets_resolve_bind hm (haddress address rfl) fun target htarget ↦ ?_
    refine Reply.Meets.bind (a := machine) (.ok hm) ?_
    rintro _ ⟨⟩
    split
    · exact (meets_call hm htarget ⟨rfl, .inr rfl⟩).bind_pure
    · exact .ok hm
  | loadBank bank value =>
    exact (meets_writeBank hm (mayFail_of_bank (by simp [banks]))).bind_pure
  | compareBank bank value =>
    have hbank : bank ∈ (compareBank bank value).banks := by simp [banks]
    have hread := meets_readBank hm (mayFail_of_bank hbank)
    refine hread.bind fun current _ ↦ ?_
    exact .ok (hread.machine.of_eq rfl rfl rfl rfl)
  | addBank bank value =>
    have hbank : bank ∈ (addBank bank value).banks := by simp [banks]
    have hread := meets_readBank hm (mayFail_of_bank hbank)
    refine hread.bind fun current _ ↦ ?_
    exact (meets_writeBank hread.machine (mayFail_of_bank hbank)).bind_pure
  | copyBank destination source =>
    have hdestination : destination ∈ (copyBank destination source).banks := by simp [banks]
    have hsource : source ∈ (copyBank destination source).banks := by simp [banks]
    have hread := meets_readBank hm (mayFail_of_bank hsource)
    refine hread.bind fun value _ ↦ ?_
    exact (meets_writeBank hread.machine (mayFail_of_bank hdestination)).bind_pure
  | lockInput | face direction => exact .ok (hm.of_eq rfl rfl rfl rfl)
  | releaseInput => exact .ok (hm.of_eq rfl rfl rfl rfl)
  | setTemp var value =>
    exact (meets_writeTemporary hm (mayFail_of_temporary (by simp [temporaries]))).bind_pure
  | loadTemp bank var =>
    have hbank : bank ∈ (loadTemp bank var).banks := by simp [banks]
    have hvar : var ∈ (loadTemp bank var).temporaries := by simp [temporaries]
    have hread := meets_readTemporary hm (mayFail_of_temporary hvar)
    refine hread.bind fun value _ ↦ ?_
    exact (meets_writeBank hread.machine (mayFail_of_bank hbank)).bind_pure
  | storeTemp var bank =>
    have hbank : bank ∈ (storeTemp var bank).banks := by simp [banks]
    have hvar : var ∈ (storeTemp var bank).temporaries := by simp [temporaries]
    have hread := meets_readBank hm (mayFail_of_bank hbank)
    refine hread.bind fun value _ ↦ ?_
    exact (meets_writeTemporary hread.machine (mayFail_of_temporary hvar)).bind_pure

namespace Action

/-- What the verdict of an instruction leads to. -/
theorem meets_heeding {F : Fault → Prop} {a : Action κ Verdict}
    (h : (a.run m).Meets (Aligned id program) F) :
    ((heeding a).run m).Meets (Aligned id program) F := by
  refine h.bind fun verdict _ ↦ ?_
  have hpark : ∀ {n : Machine κ}, n.Aligned id program →
      (park.run n).Meets (Aligned id program) F := by
    intro n hn
    simp only [park]
    split
    case h_1 d hd =>
      refine .ok (hn.resting fun _ hx ↦ ?_)
      cases hx
      exact hn.of_activity hd
    case h_2 => exact .ok hn
  split
  · refine (hpark h.machine).bind fun _ _ ↦ ?_
    exact .ok (hpark h.machine).machine
  · exact .ok h.machine

/-- **A dispatch unit of a linked program** keeps the machine aligned, and it fails only as one of
the instructions may. -/
theorem keeps_dispatch (hlinked : Linked program) :
    Keeps (Aligned id program) (fun e ↦ ∃ i ∈ program, i.MayFail e)
      (dispatch : Action κ StepOutcome) := by
  intro m hm
  by_cases hmode : m.mode = .normal
  · obtain ⟨c, hc⟩ := exists_eq_movedTo_of_mode hmode
    rw [hc] at hm ⊢
    obtain hrest | ⟨i, hi, back, hrest, hnext⟩ := (hm.of_activity rfl).rest_cases
    · rw [run_dispatch_of_atEnd hrest]
      exact .ok hm.halted
    · -- The cursor is off the boundaries while operands are read; it is back on one afterwards.
      have hafter : (m.movedTo (c.advance i.opcode.size)).Aligned id program := hm.movedTo hnext
      have hreply := meets_heeding (i.meets_execute hafter (hlinked i hi))
      have htable : m.table = .core := hm.table
      rw [run_dispatch_of_instruction htable hrest]
      exact ⟨hreply.machine, fun e he ↦ ⟨i, hi, hreply.fault e he⟩⟩
  · rw [run_dispatch_of_idle hmode]
    exact .ok hm

theorem keeps_stepUpTo (hlinked : Linked program) (budget : Nat) :
    Keeps (Aligned id program) (fun e ↦ ∃ i ∈ program, i.MayFail e)
      (stepUpTo budget : Action κ StepOutcome) := by
  refine (keeps_dispatch hlinked).stepUpTo (fun e m hm ↦ hm.faulted e) ?_ budget
  intro task m htask hm
  exact absurd (congrArg Activity.mode htask) hm.scripted

theorem keeps_step (hlinked : Linked program) :
    Keeps (Aligned id program) (fun e ↦ ∃ i ∈ program, i.MayFail e)
      (step : Action κ StepOutcome) := by
  intro m hm
  rw [run_step]
  exact keeps_stepUpTo hlinked _ m hm

end Action

/-! ## Runs -/

/-- What a host does to a context while its script is under way. -/
inductive HostMove where
  | step
  | stepOnce
  | resume
  | stop
  | setEnabled (enabled : Bool)
  /-- Goes on under another policy and budget. -/
  | retune (policy : Policy) (budget : Nat)
  | writeBank (bank : Nat) (value : UInt32)
  | writeTemporary (id value : UInt16)

/-- The machine after a move, whether or not the move was refused. -/
def HostMove.apply (m : Machine κ) : HostMove → Machine κ
  | step => (Action.step.run m).machine
  | stepOnce => (Action.stepOnce.run m).machine
  | resume => (Action.resume.run m).machine
  | stop => (Action.stop.run m).machine
  | setEnabled enabled => ((Action.setEnabled enabled).run m).machine
  | retune policy budget => m.retuned policy budget
  | writeBank bank value => ((Action.writeBank bank value).run m).machine
  | writeTemporary id value => ((Action.writeTemporary id value).run m).machine

/-- The machine after a sequence of moves. -/
def Machine.after (m : Machine κ) (moves : List HostMove) : Machine κ :=
  moves.foldl HostMove.apply m

namespace Machine.Aligned

theorem launched (h : m.enabled = true) (id : Nat) (program : List Instruction) :
    (m.launched (assembled id program)).Aligned id program := by
  rw [launched_eq _ h]
  refine ⟨rfl, nofun, fun c hc ↦ ?_⟩
  rcases Context.mem_cursors_iff.mp hc with hc | hc | hc
  · cases hc
    exact ⟨rfl, .start program⟩
  · cases hc
  · cases hc

theorem resumed (hm : m.Aligned id program) : (resume.run m).machine.Aligned id program := by
  simp only [resume]
  split
  · exact hm
  · split
    case h_1 d _ hparked =>
      refine ⟨hm.table, nofun, fun x hx ↦ ?_⟩
      rcases Context.mem_cursors_iff.mp hx with hx | hx | hx
      · cases hx
        exact hm.of_parked hparked
      · cases hx
      · exact hm.of_mem hx
    case h_2 => exact hm

theorem apply (hlinked : Linked program) (hm : m.Aligned id program) (move : HostMove) :
    (move.apply m).Aligned id program := by
  cases move with
  | step => exact (keeps_step hlinked m hm).machine
  | stepOnce => exact (keeps_stepUpTo hlinked 1 m hm).machine
  | resume => exact hm.resumed
  | stop => exact hm.halted
  | setEnabled enabled => exact hm.of_eq rfl rfl rfl rfl
  | retune policy budget => exact hm.of_eq rfl rfl rfl rfl
  | writeBank bank value =>
    exact (meets_writeBank (F := fun _ ↦ True) hm fun _ ↦ trivial).machine
  | writeTemporary id value =>
    exact (meets_writeTemporary (F := fun _ ↦ True) hm fun _ ↦ trivial).machine

theorem after (hlinked : Linked program) (hm : m.Aligned id program) (moves : List HostMove) :
    (m.after moves).Aligned id program := by
  induction moves generalizing m with
  | nil => exact hm
  | cons move rest ih => exact ih (hm.apply hlinked move)

end Machine.Aligned

/-- The program was started on an enabled machine, and the host has made some moves since. -/
def Underway (id : Nat) (program : List Instruction) (n : Machine κ) : Prop :=
  ∃ (m : Machine κ) (moves : List HostMove), m.enabled = true ∧
    n = (m.launched (assembled id program)).after moves

/-- **Linked programs cannot go wrong.** Whatever the host does meanwhile, all cursors stay at
boundaries of the program, and no step fails because of the bytes. If the banks and temporaries that
the program names exist, only the call stack can make a step fail. -/
theorem linked_safe (hlinked : Linked program) (hn : Underway id program n) :
    (∀ c ∈ n.cursors, c.script = assembled id program ∧ Boundary program c.offset) ∧
      ∀ e, (step.run n).result = .error e ∨ (stepOnce.run n).result = .error e →
        (∀ offset kind, e ≠ .corruptProgram offset kind) ∧
          ((∀ i ∈ program, i.Valid) →
            e = .stackOverflow stackCapacity ∨ e = .stackUnderflow) := by
  obtain ⟨m, moves, henabled, rfl⟩ := hn
  have hafter := (Aligned.launched henabled id program).after hlinked moves
  refine ⟨fun c hc ↦ ⟨(hafter.cursors c hc).script, (hafter.cursors c hc).boundary⟩, ?_⟩
  intro e he
  have hfault : ∃ i ∈ program, i.MayFail e := by
    rcases he with he | he
    · exact (keeps_step hlinked _ hafter).fault e he
    · exact (keeps_stepUpTo hlinked 1 _ hafter).fault e he
  obtain ⟨i, hi, hfail⟩ := hfault
  exact ⟨hfail.ne_corruptProgram, fun hvalid ↦ hfail.eq_of_valid (hvalid i hi)⟩

/-- A subroutine that suspends, and a return too many. -/
def returningProgram : List Instruction := [.call 6, .ret, .wait, .setTemp 0x8000 7, .ret]

/-- The machine in front of the return too many. -/
def returningMachine : Machine Opcode :=
  (Machine.launched (.new "primary") (assembled 0 returningProgram)).after
    [.step, .step, .setEnabled false, .step, .setEnabled true, .resume,
      .retune .untilSuspend 2, .step]

/-- After the subroutine the context stands behind its call, and the next step fails for want of a
return address. -/
theorem linked_safe_returning :
    Linked returningProgram ∧ (∀ i ∈ returningProgram, i.Valid) ∧
      Underway 0 returningProgram returningMachine ∧
      returningMachine.cursors = [⟨assembled 0 returningProgram, 5⟩] ∧
      Boundary returningProgram 5 ∧
      (step.run returningMachine).result = .error .stackUnderflow ∧
      ∀ e, (step.run returningMachine).result = .error e →
        e = .stackOverflow stackCapacity ∨ e = .stackUnderflow := by
  have hsix : ∀ i ∈ returningProgram, ∀ address ∈ i.target?, address = 6 := by
    simp [returningProgram, Instruction.target?]
  have hlinked : Linked returningProgram := by
    intro i hi address haddress
    rw [hsix i hi address haddress]
    exact ⟨[.call 6, .ret], [.wait, .setTemp 0x8000 7, .ret], rfl, rfl⟩
  have hbanks : ∀ i ∈ returningProgram, ∀ bank ∈ i.banks, bank.toNat < 4 := by
    simp [returningProgram, Instruction.banks]
  have hfirst : ∀ i ∈ returningProgram, ∀ id ∈ i.temporaries, id = 0x8000 := by
    simp [returningProgram, Instruction.temporaries]
  have htemporaries : ∀ i ∈ returningProgram, ∀ id ∈ i.temporaries, id ∈ Temporaries.ids := by
    intro i hi id hid
    rw [hfirst i hi id hid]
    exact Vector.mem_iff_getElem.mpr ⟨0, by decide, rfl⟩
  have hvalid : ∀ i ∈ returningProgram, i.Valid := fun i hi ↦ ⟨hbanks i hi, htemporaries i hi⟩
  have hunderway : Underway 0 returningProgram returningMachine := ⟨.new "primary", _, rfl, rfl⟩
  have hcursors : returningMachine.cursors = [⟨assembled 0 returningProgram, 5⟩] := rfl
  have hplace : ⟨assembled 0 returningProgram, 5⟩ ∈ returningMachine.cursors := by
    rw [hcursors]
    exact List.mem_singleton_self _
  have hsafe := linked_safe hlinked hunderway
  exact ⟨hlinked, hvalid, hunderway, hcursors, (hsafe.1 _ hplace).2, rfl,
    fun e he ↦ (hsafe.2 e (.inl he)).2 hvalid⟩

end EventScript
