import EventScript.Proofs.Batching
import EventScript.Proofs.Defects

/-!
# Decode, check, execute

A core command reads, checks and changes things in turn. This file gives the reference in which the
three are apart, and shows that a single step under the core table is what the reference says.

* *Decoding* (`Cursor.defect?`) looks at the bytes alone. Without a defect an instruction stands in
  front of the cursor.
* *Checking* (`Instruction.check`) looks at the machine and changes nothing.
* *Executing* (`Instruction.effect`) cannot fail any more and is one update of the machine.

A defect or a failed check leaves the machine as it was, apart from the script being stopped and the
fault being recorded.

## Order of checks

Where an instruction can fail in two ways, `Instruction.check` says which fault is reported. An
address is checked before anything else, also for a branch that is not taken. Of two variables it is
the one to be read that is checked first, wherever it is stored.
-/

namespace EventScript

open Instruction

variable {κ α : Type}

/-! ## Checking -/

section check

variable (next : Cursor) (m : Machine κ)

/-- The address, which is the last operand, lies in the script or at its end. -/
def checkTarget (address : UInt32) : Except Fault Unit :=
  if address.toNat ≤ next.script.length then .ok ()
  else .error (.corruptProgram (next.offset - 4)
    (.targetOutOfBounds address.toNat next.script.length))

/-- There is room for a return address. -/
def checkRoom : Except Fault Unit :=
  if m.depth < 20 then .ok () else .error (.stackOverflow 20)

/-- There is such a bank. -/
def checkBank (bank : UInt8) : Except Fault Unit :=
  if bank.toNat < 4 then .ok () else .error (.invalidBankIndex bank.toNat)

/-- There is such a temporary. -/
def checkTemporary (id : UInt16) : Except Fault Unit :=
  if id ∈ Temporaries.ids then .ok () else .error (.invalidTemporary id)

/-- Whether the instruction can be executed with `next` behind it, and else why not. -/
def Instruction.check : Instruction → Except Fault Unit
  | nop | stop | wait | lockInput | releaseInput | face _ => .ok ()
  | ret => if 0 < m.depth then .ok () else .error .stackUnderflow
  | goto address | gotoIf _ address => checkTarget next address
  | call address => do
    checkTarget next address
    checkRoom m
  | callIf condition address => do
    checkTarget next address
    if condition.holds m.comparison then
      checkRoom m
  | loadBank bank _ | compareBank bank _ | addBank bank _ => checkBank bank
  | copyBank destination source => do
    checkBank source
    checkBank destination
  | setTemp id _ => checkTemporary id
  | loadTemp bank id => do
    checkTemporary id
    checkBank bank
  | storeTemp id bank => do
    checkBank bank
    checkTemporary id

end check

/-! ## Executing -/

namespace Machine

variable (m : Machine κ)

/-- The value of a bank that exists. -/
def bank (bank : UInt8) : UInt32 := if h : bank.toNat < 4 then m.banks[bank.toNat] else 0

/-- The value of a temporary that exists. -/
def temporary (id : UInt16) : UInt16 :=
  match Temporaries.slot? id with
  | some i => m.temporaries.values.get i
  | none => 0

/-- A bank that exists gets a value. -/
def withBank (bank : UInt8) (value : UInt32) : Machine κ :=
  if h : bank.toNat < 4 then { m with banks := m.banks.set bank.toNat value } else m

/-- A temporary that exists gets a value. -/
def withTemporary (id value : UInt16) : Machine κ :=
  match Temporaries.slot? id with
  | some ⟨i, h⟩ => { m with temporaries := ⟨m.temporaries.values.set i value h⟩ }
  | none => m

/-- The machine goes on at an address and will come back. -/
def called (next : Cursor) (address : UInt32) : Machine κ :=
  { m with
    activity := .script ⟨next.script, address.toNat⟩
    callStack := next :: m.callStack }

end Machine

namespace Instruction

/-- The machine after an instruction that has been checked, with `next` behind it. -/
def effect (next : Cursor) (m : Machine κ) : Instruction → Machine κ
  | nop => m.movedTo next
  | stop => { m with activity := .paused, parked := none }
  | wait => { m with activity := .paused, parked := some next }
  | ret =>
    match m.callStack with
    | place :: others => { m with activity := .script place, callStack := others }
    | [] => m
  | call address => m.called next address
  | goto address => m.movedTo ⟨next.script, address.toNat⟩
  | gotoIf condition address =>
    if condition.holds m.comparison then m.movedTo ⟨next.script, address.toNat⟩ else m.movedTo next
  | callIf condition address =>
    if condition.holds m.comparison then m.called next address else m.movedTo next
  | loadBank bank value => (m.movedTo next).withBank bank value
  | compareBank bank value =>
    { m.movedTo next with comparison := comparisonOf (m.bank bank) value }
  | addBank bank value => (m.movedTo next).withBank bank (m.bank bank + value)
  | copyBank destination source => (m.movedTo next).withBank destination (m.bank source)
  | lockInput => { m.movedTo next with inputControl := false }
  | releaseInput => { m.movedTo next with inputControl := true, direction := 0 }
  | face direction => { m.movedTo next with direction := direction }
  | setTemp id value => (m.movedTo next).withTemporary id value
  | loadTemp bank id => (m.movedTo next).withBank bank (m.temporary id).toUInt32
  | storeTemp id bank => (m.movedTo next).withTemporary id (m.bank bank).toUInt16

/-- What a step comes to that executes the instruction. -/
def outcome : Instruction → StepOutcome
  | stop => .halted
  | wait => .suspended
  | _ => .running

end Instruction

/-! ## Checked operations -/

/-- The reply of an action on a machine: it does its work if the check was passed, and else fails
and changes nothing. -/
def Carried (n : Machine κ) (checked : Except Fault Unit) (after : Machine κ)
    (reply : Reply κ Verdict) : Prop :=
  match checked with
  | .ok () => reply.result = .ok .proceed ∧ reply.machine = after
  | .error e => reply.result = .error e ∧ reply.machine = n

namespace Carried

open EventScript.Action

variable {n after : Machine κ} {checked others : Except Fault Unit} {a : Action κ Unit}

theorem bind {a : Action κ α} {x : α} {f : α → Action κ Verdict}
    (ha : a.run n = ⟨checked.map fun _ ↦ x, n, []⟩) (hf : Carried n others after ((f x).run n)) :
    Carried n (do checked; others) after ((a >>= f).run n) := by
  rw [run_bind, ha]
  cases checked with
  | error e => exact ⟨rfl, rfl⟩
  | ok _ => exact hf

theorem last {events : List Event} (ha : a.run n = ⟨checked, after, events⟩)
    (hnone : ∀ e, checked = .error e → after = n) :
    Carried n checked after ((do a; return .proceed : Action κ Verdict).run n) := by
  rw [run_bind, ha]
  cases checked with
  | error e => exact ⟨rfl, hnone e rfl⟩
  | ok _ => exact ⟨rfl, rfl⟩

theorem free {events : List Event} (ha : a.run n = ⟨.ok (), after, events⟩) :
    Carried n (.ok ()) after ((do a; return .proceed : Action κ Verdict).run n) :=
  last ha nofun

/-- An operation that depends on the last comparison is checked only if it takes place. -/
theorem branch {condition : Condition}
    (ha : Carried n checked after ((do a; return .proceed : Action κ Verdict).run n)) :
    Carried n (if condition.holds n.comparison then checked else .ok ())
      (if condition.holds n.comparison then after else n)
      ((do
        let m ← machine
        if condition.holds m.comparison then a
        return .proceed : Action κ Verdict).run n) := by
  rw [run_bind, run_machine]
  rcases hholds : condition.holds n.comparison with _ | _
  · simp only [hholds]
    exact ⟨rfl, rfl⟩
  · simp only [hholds]
    exact ha

end Carried

section operations

open EventScript.Action

variable (n : Machine κ) (bank : UInt8) (id : UInt16)

theorem run_readBank :
    (readBank bank.toNat).run n = ⟨(checkBank bank).map fun _ ↦ n.bank bank, n, []⟩ := by
  rw [readBank, checkBank, Machine.bank]
  dsimp only
  split <;> rfl

theorem run_writeBank (value : UInt32) :
    (writeBank bank.toNat value).run n = ⟨checkBank bank, n.withBank bank value, []⟩ := by
  rw [writeBank, checkBank, Machine.withBank]
  dsimp only
  split <;> rfl

theorem withBank_of_error {e : Fault} (h : checkBank bank = .error e) (value : UInt32) :
    n.withBank bank value = n := by
  rw [checkBank] at h
  split at h
  · cases h
  · exact dif_neg ‹_›

theorem carried_writeBank (value : UInt32) :
    Carried n (checkBank bank) (n.withBank bank value)
      ((do writeBank bank.toNat value; return .proceed : Action κ Verdict).run n) :=
  .last (run_writeBank n bank value) fun _ he ↦ withBank_of_error n bank he value

theorem Temporaries.mem_ids_of_slot? {id : UInt16} {i : Fin 5} (h : slot? id = some i) :
    id ∈ ids := by
  rw [← slot?_eq_some_iff.mp h]
  exact Vector.getElem_mem i.isLt

theorem run_readTemporary :
    (readTemporary id).run n = ⟨(checkTemporary id).map fun _ ↦ n.temporary id, n, []⟩ := by
  simp only [readTemporary, checkTemporary, Machine.temporary, Temporaries.get]
  rcases hslot : Temporaries.slot? id with _ | i
  · rw [if_neg (Temporaries.notMem_ids_of_slot? hslot)]
    rfl
  · rw [if_pos (Temporaries.mem_ids_of_slot? hslot)]
    rfl

theorem run_writeTemporary (value : UInt16) :
    (writeTemporary id value).run n = ⟨checkTemporary id, n.withTemporary id value, []⟩ := by
  simp only [writeTemporary, checkTemporary, Machine.withTemporary, Temporaries.set]
  rcases hslot : Temporaries.slot? id with _ | i
  · rw [if_neg (Temporaries.notMem_ids_of_slot? hslot)]
  · rw [if_pos (Temporaries.mem_ids_of_slot? hslot)]

theorem withTemporary_of_error {e : Fault} (h : checkTemporary id = .error e) (value : UInt16) :
    n.withTemporary id value = n := by
  rw [Machine.withTemporary]
  rcases hslot : Temporaries.slot? id with _ | i
  · rfl
  · rw [checkTemporary, if_pos (Temporaries.mem_ids_of_slot? hslot)] at h
    cases h

theorem carried_writeTemporary (value : UInt16) :
    Carried n (checkTemporary id) (n.withTemporary id value)
      ((do writeTemporary id value; return .proceed : Action κ Verdict).run n) :=
  .last (run_writeTemporary n id value) fun _ he ↦ withTemporary_of_error n id he value

variable (m : Machine κ) (next : Cursor) (address : UInt32)

theorem run_resolve :
    (resolve address).run (m.movedTo next) =
      ⟨(checkTarget next address).map fun _ ↦ ⟨next.script, address.toNat⟩,
        m.movedTo next, []⟩ := by
  simp only [resolve, checkTarget, Machine.activity_movedTo]
  split <;> rfl

theorem carried_call :
    Carried (m.movedTo next) (checkRoom m) (m.called next address)
      ((do call ⟨next.script, address.toNat⟩; return .proceed : Action κ Verdict).run
        (m.movedTo next)) := by
  by_cases hroom : m.depth < 20
  · have hrun : (call ⟨next.script, address.toNat⟩).run (m.movedTo next) =
        ⟨.ok (), m.called next address, []⟩ := if_pos hroom
    rw [checkRoom, if_pos hroom]
    exact .free hrun
  · have hrun : (call ⟨next.script, address.toNat⟩).run (m.movedTo next) =
        ⟨.error (.stackOverflow 20), m.movedTo next, [.callRefused address.toNat m.depth]⟩ :=
      if_neg hroom
    rw [checkRoom, if_neg hroom, run_bind, hrun]
    exact ⟨rfl, rfl⟩

theorem carried_ret :
    Carried (m.movedTo next) (Instruction.ret.check next m) (Instruction.ret.effect next m)
      ((do Action.ret; return .proceed : Action κ Verdict).run (m.movedTo next)) := by
  rw [check, effect, Context.depth]
  rcases hstack : m.callStack with _ | ⟨place, others⟩
  · have hrun : Action.ret.run (m.movedTo next) = ⟨.error .stackUnderflow, m.movedTo next, []⟩ := by
      simp only [Action.ret, Machine.movedTo, hstack]
    rw [run_bind, hrun]
    exact ⟨rfl, rfl⟩
  · have hrun : Action.ret.run (m.movedTo next) =
        ⟨.ok (), { m with activity := .script place, callStack := others }, []⟩ := by
      simp only [Action.ret, Machine.movedTo, hstack]
    exact .free hrun

end operations

namespace Instruction

open EventScript.Action

variable (next : Cursor) (m : Machine κ)

/-- **Executing is checking and then doing.** -/
theorem carried_execute {i : Instruction} (hi : i ≠ wait) :
    Carried (m.movedTo next) (i.check next m) (i.effect next m)
      (i.execute.run (m.movedTo next)) := by
  have hpass : ∀ checked : Except Fault Unit,
      (do checked; .ok () : Except Fault Unit) = checked := by
    rintro (e | _) <;> rfl
  have htwice : ∀ bank, (do checkBank bank; checkBank bank) = checkBank bank := by
    intro bank
    cases checkBank bank <;> rfl
  cases i with
  | wait => exact absurd rfl hi
  | nop | stop | lockInput | releaseInput | face direction => exact ⟨rfl, rfl⟩
  | ret => exact carried_ret m next
  | call address => exact .bind (run_resolve m next address) (carried_call m next address)
  | goto address =>
    rw [check, ← hpass (checkTarget next address)]
    exact .bind (run_resolve m next address) (.free rfl)
  | gotoIf condition address =>
    have hsame : (if condition.holds m.comparison then .ok () else .ok () : Except Fault Unit) =
        .ok () := ite_self _
    rw [check, ← hpass (checkTarget next address), ← hsame]
    exact .bind (run_resolve m next address) (.branch (.free rfl))
  | callIf condition address =>
    exact .bind (run_resolve m next address) (.branch (carried_call m next address))
  | loadBank bank value => exact carried_writeBank _ bank value
  | compareBank bank value =>
    rw [check, ← hpass (checkBank bank)]
    exact .bind (run_readBank _ bank) (.free rfl)
  | addBank bank value =>
    rw [check, ← htwice bank]
    exact .bind (run_readBank _ bank) (carried_writeBank _ bank _)
  | copyBank destination source =>
    exact .bind (run_readBank _ source) (carried_writeBank _ destination _)
  | setTemp id value => exact carried_writeTemporary _ id value
  | loadTemp bank id => exact .bind (run_readTemporary _ id) (carried_writeBank _ bank _)
  | storeTemp id bank => exact .bind (run_readBank _ bank) (carried_writeTemporary _ id _)

theorem outcome_effect {i : Instruction} {next : Cursor} {m : Machine κ}
    (h : i.check next m = .ok ()) : (i.effect next m).outcome = i.outcome := by
  cases i with
  | ret =>
    rw [check, Context.depth] at h
    rw [effect]
    rcases hstack : m.callStack with _ | ⟨place, others⟩
    · rw [hstack] at h
      cases h
    · rfl
  | gotoIf condition address | callIf condition address =>
    rw [effect]
    split <;> rfl
  | loadBank bank _ | addBank bank _ | loadTemp bank _ | copyBank bank _ =>
    rw [effect, Machine.withBank]
    split <;> rfl
  | setTemp id _ | storeTemp id _ =>
    rw [effect, Machine.withTemporary]
    split <;> rfl
  | _ => rfl

/-- **An instruction in front of a machine, with what becomes of its verdict.** -/
theorem run_heeding_execute (i : Instruction) (next : Cursor) (m : Machine κ) :
    let reply := (heeding i.execute).run (m.movedTo next)
    match i.check next m with
    | .error e => reply.result = .error e ∧ reply.machine = m.movedTo next
    | .ok () => reply.result = .ok i.outcome ∧ reply.machine = i.effect next m := by
  by_cases hi : i = wait
  · subst hi
    exact ⟨rfl, rfl⟩
  · have hcarried := carried_execute next m hi
    rcases hcheck : i.check next m with e | _
    · rw [hcheck] at hcarried
      obtain ⟨hresult, hmachine⟩ := hcarried
      dsimp only
      rw [run_heeding_of_error hresult]
      exact ⟨rfl, hmachine⟩
    · rw [hcheck] at hcarried
      obtain ⟨hresult, hmachine⟩ := hcarried
      dsimp only
      rw [run_heeding_of_proceed hresult, hmachine, outcome_effect hcheck]
      exact ⟨rfl, rfl⟩

end Instruction

/-! ## Steps -/

namespace Action

open Machine

variable [CommandSet κ] [Handlers κ] [CoreHandlers κ] {m : Machine κ} {c : Cursor}

/-- **What a dispatch unit under the core table can come to**: the end of the script, a fault that
has at most moved the cursor, or the effect of the instruction in front of the cursor. -/
theorem dispatch_cases (htable : m.table = .core) (hactivity : m.activity = .script c) :
    let reply := dispatch.run m
    (c.rest = [] ∧ reply.result = .ok .halted ∧ reply.machine = { m with toContext := m.halted }) ∨
    (∃ e d, reply.result = .error e ∧ reply.machine = m.movedTo d ∧
      (c.defect? = some e ∨ ∃ i : Instruction, i.check (c.advance i.opcode.size) m = .error e)) ∨
    (∃ (i : Instruction) (back : List UInt8), c.rest = i.encode ++ back ∧
      i.check (c.advance i.opcode.size) m = .ok () ∧ reply.result = .ok i.outcome ∧
      reply.machine = i.effect (c.advance i.opcode.size) m) := by
  intro reply
  have hreply : reply = dispatch.run (m.movedTo c) := by rw [movedTo_of_activity hactivity]
  rw [hreply]
  by_cases hend : c.rest = []
  · rw [run_dispatch_of_atEnd hend]
    exact .inl ⟨hend, rfl, rfl⟩
  refine .inr ?_
  rcases hdefect : c.defect? with _ | e
  · have hoffset : c.offset < c.script.length := by
      refine Nat.not_le.mp fun hle ↦ hend (Cursor.atEnd_iff.mp ?_)
      exact decide_eq_true hle
    obtain ⟨i, back, hrest⟩ := Cursor.exists_instruction hoffset hdefect
    have hmeaning := i.run_heeding_execute (c.advance i.opcode.size) m
    rw [run_dispatch_of_instruction htable hrest]
    rcases hcheck : i.check (c.advance i.opcode.size) m with e | _
    · rw [hcheck] at hmeaning
      exact .inl ⟨e, _, hmeaning.1, hmeaning.2, .inr ⟨i, hcheck⟩⟩
    · rw [hcheck] at hmeaning
      exact .inr ⟨i, back, hrest, hcheck, hmeaning⟩
  · obtain ⟨hresult, d, hmachine⟩ := dispatch_of_defect htable hdefect
    exact .inl ⟨e, d, hresult, hmachine, .inl rfl⟩

omit [CommandSet κ] [CoreHandlers κ] in
theorem run_stepOnce_of_script (henabled : m.enabled = true) (hactivity : m.activity = .script c) :
    stepOnce.run m = (catching dispatch).run (m.movedTo c) := by
  have hmode : m.mode = .normal := by
    rw [Context.mode, hactivity]
    rfl
  rw [movedTo_of_activity hactivity, run_stepOnce henabled hmode]

omit [CommandSet κ] [CoreHandlers κ] in
/-- A fault in a dispatch unit that has at most moved the cursor stops the machine as it was. -/
theorem stepOnce_of_dispatch_error {e : Fault} {d : Cursor} (henabled : m.enabled = true)
    (hactivity : m.activity = .script c)
    (hresult : (dispatch.run (m.movedTo c)).result = .error e)
    (hmachine : (dispatch.run (m.movedTo c)).machine = m.movedTo d) :
    (stepOnce.run m).result = .error e ∧ (stepOnce.run m).machine = m.faulted e := by
  rw [run_stepOnce_of_script henabled hactivity, run_catching_of_error hresult, hmachine]
  exact ⟨rfl, rfl⟩

end Action

/-- **A single step under the core table is decoding, checking and executing**, whatever stands in
front of the cursor and whatever state the context is in. -/
theorem step_once_by_reference [CommandSet κ] {m : Machine κ} {c : Cursor}
    (henabled : m.enabled = true) (htable : m.table = .core) (hactivity : m.activity = .script c)
    (hoffset : c.offset < c.script.length) :
    let reply := Action.stepOnce.run m
    match c.defect? with
    | some e => reply.result = .error e ∧ reply.machine = m.faulted e
    | none => ∃ i back, c.rest = Instruction.encode i ++ back ∧
      match i.check (c.advance i.opcode.size) m with
      | .error e => reply.result = .error e ∧ reply.machine = m.faulted e
      | .ok () =>
        reply.result = .ok i.outcome ∧ reply.machine = i.effect (c.advance i.opcode.size) m := by
  intro reply
  rcases hdefect : c.defect? with _ | e
  · obtain ⟨i, back, hrest⟩ := Cursor.exists_instruction hoffset hdefect
    have hunit := Action.run_dispatch_of_instruction htable hrest
    have hmeaning := i.run_heeding_execute (c.advance i.opcode.size) m
    refine ⟨i, back, hrest, ?_⟩
    rcases hcheck : i.check (c.advance i.opcode.size) m with e | _
    · rw [hcheck] at hmeaning
      exact Action.stepOnce_of_dispatch_error henabled hactivity
        (by rw [hunit]; exact hmeaning.1) (by rw [hunit]; exact hmeaning.2)
    · rw [hcheck] at hmeaning
      have hresult : (Action.dispatch.run (m.movedTo c)).result = .ok i.outcome := by
        rw [hunit]
        exact hmeaning.1
      have hreply : reply = Action.dispatch.run (m.movedTo c) :=
        (Action.run_stepOnce_of_script henabled hactivity).trans (Action.run_catching_of_ok hresult)
      refine ⟨by rw [hreply, hresult], ?_⟩
      rw [hreply, hunit]
      exact hmeaning.2
  · obtain ⟨hresult, d, hmachine⟩ := Action.dispatch_of_defect htable hdefect
    exact Action.stepOnce_of_dispatch_error henabled hactivity hresult hmachine

/-- The machine that runs the bytes from the first one, with the last comparison equal. -/
def referenceMachine (bytes : List UInt8) : Machine Opcode :=
  { Machine.new "primary" with activity := .script (Script.ofBytes 0 bytes).start, comparison := 1 }

/-- A conditional jump with a condition that is none and half an address: the condition is reported.
A conditional call to the end of the script: the call is taken. -/
theorem step_once_by_reference_conditional :
    let flawed := referenceMachine [0x05, 0x07, 0x01]
    let calling := referenceMachine [0x06, 0x01, 0x06, 0x00, 0x00, 0x00]
    let last : Cursor := ⟨.ofBytes 0 [0x06, 0x01, 0x06, 0x00, 0x00, 0x00], 6⟩
    (Action.stepOnce.run flawed).result = .error (.corruptProgram 1 (.invalidCondition 7)) ∧
      (Action.stepOnce.run flawed).machine =
        flawed.faulted (.corruptProgram 1 (.invalidCondition 7)) ∧
      (Action.stepOnce.run calling).result = .ok .running ∧
      (Action.stepOnce.run calling).machine =
        { calling with activity := .script last, callStack := [last] } := by
  intro flawed calling last
  have hflawed := step_once_by_reference (m := flawed) rfl rfl rfl (by decide)
  obtain ⟨i, back, hrest, hcalling⟩ := step_once_by_reference (m := calling) rfl rfl rfl (by decide)
  obtain ⟨rfl, rfl⟩ : i = .callIf .equal 6 ∧ back = [] := by
    have hdecode := decode?_eq_some_iff.mpr hrest
    cases hdecode
    exact ⟨rfl, rfl⟩
  exact ⟨hflawed.1, hflawed.2, hcalling.1, hcalling.2⟩

end EventScript
