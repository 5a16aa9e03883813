import EventScript.Proofs.CoreCommands

/-!
# Instructions carried out

A core command reads its operands one by one and then does its work. Where an instruction stands in
front of the cursor, the two can be told apart: the command comes to what `Instruction.execute` does
on the machine with the cursor already behind the instruction. The bytes are gone from the
statement, and what follows is about instructions.
-/

namespace EventScript

variable {κ α β : Type}

/-- Finds the place of an address that was read just now. -/
def Action.resolve (address : UInt32) : Action κ Cursor :=
  ⟨fun m ↦
    match m.activity with
    | .script cursor =>
      { result :=
          if address.toNat ≤ cursor.script.length then .ok ⟨cursor.script, address.toNat⟩
          else .error (.corruptProgram (cursor.offset - 4)
            (.targetOutOfBounds address.toNat cursor.script.length))
        machine := m }
    | _ => ⟨.error (.notRunning "read_target"), m, []⟩⟩

/-- What an instruction does once its operands have been read. -/
def Instruction.execute : Instruction → Action κ Verdict
  | nop => return .proceed
  | stop => do
    Action.stop
    return .proceed
  | ret => do
    Action.ret
    return .proceed
  | call address => do
    let target ← Action.resolve address
    Action.call target
    return .proceed
  | goto address => do
    let target ← Action.resolve address
    Action.jump target
    return .proceed
  | gotoIf condition address => do
    let target ← Action.resolve address
    let m ← Action.machine
    if condition.holds m.comparison then
      Action.jump target
    return .proceed
  | callIf condition address => do
    let target ← Action.resolve address
    let m ← Action.machine
    if condition.holds m.comparison then
      Action.call target
    return .proceed
  | loadBank bank value => do
    Action.writeBank bank.toNat value
    return .proceed
  | compareBank bank value => do
    let current ← Action.readBank bank.toNat
    Action.setComparison (comparisonOf current value)
    return .proceed
  | addBank bank value => do
    let current ← Action.readBank bank.toNat
    Action.writeBank bank.toNat (current + value)
    return .proceed
  | copyBank destination source => do
    let value ← Action.readBank source.toNat
    Action.writeBank destination.toNat value
    return .proceed
  | wait => return .suspend
  | lockInput => do
    Action.setInputControl false
    return .proceed
  | releaseInput => do
    Action.setInputControl true
    Action.setDirection 0
    return .proceed
  | face direction => do
    Action.setDirection direction
    return .proceed
  | setTemp id value => do
    Action.writeTemporary id value
    return .proceed
  | loadTemp bank id => do
    let value ← Action.readTemporary id
    Action.writeBank bank.toNat value.toUInt32
    return .proceed
  | storeTemp id bank => do
    let value ← Action.readBank bank.toNat
    Action.writeTemporary id value.toUInt16
    return .proceed

/-! ## Programs after their first request -/

namespace Program

/-- A request that is granted without report is out of the way. -/
theorem run_send_bind {r : Request κ} {m n : Machine κ} {a : r.Answer}
    (h : r.perform.run m = ⟨.ok a, n, []⟩) (f : r.Answer → Program κ β) :
    (send r >>= f).perform.run m = (f a).perform.run n := by
  rw [perform_bind, perform_send, Action.run_bind, h]
  rfl

theorem perform_send_bind (r : Request κ) {f : r.Answer → Program κ β} {g : r.Answer → Action κ β}
    (h : ∀ a, (f a).perform = g a) : (send r >>= f).perform = r.perform >>= g := by
  rw [perform_bind, perform_send]
  exact congrArg _ (funext h)

theorem run_send_bind_eq (r : Request κ) {f : r.Answer → Program κ β} {g : r.Answer → Action κ β}
    (h : ∀ a, (f a).perform = g a) (m : Machine κ) :
    (send r >>= f).perform.run m = (r.perform >>= g).run m := by
  rw [perform_send_bind r h]

theorem perform_judge_bind (condition : Condition) (f : Bool → Program κ β) :
    (Command.judge condition >>= f).perform =
      Action.machine >>= fun m ↦ (f (condition.holds m.comparison)).perform := by
  rw [perform_bind]
  rfl

end Program

namespace Command

open EventScript.Action Instruction Program

variable {m : Machine κ} {c : Cursor} {back : List UInt8}

/-! ## Reading an operand and going on -/

theorem run_fetch_bind {r : Request κ} {take? : List UInt8 → Option (r.Answer × List UInt8)}
    {width : Nat} {decode : List UInt8 → r.Answer} (hr : r.Fetches take? width decode)
    {a : r.Answer} (h : take? c.rest = some (a, back)) (f : r.Answer → Program κ β) :
    (send r >>= f).perform.run (m.movedTo c) =
      (f a).perform.run (m.movedTo (c.advance width)) :=
  run_send_bind (hr.run_of_some h m) f

theorem run_readU8_bind {b : UInt8} (h : c.rest = b :: back) (f : UInt8 → Program κ β) :
    (send .readU8 >>= f).perform.run (m.movedTo c) =
      (f b).perform.run (m.movedTo (c.advance 1)) :=
  run_fetch_bind Request.fetches_readU8 (takeByte?_eq_some_iff.mpr h) f

theorem run_readU16_bind {v : UInt16} (h : c.rest = Bytes.ofUInt16 v ++ back)
    (f : UInt16 → Program κ β) :
    (send .readU16 >>= f).perform.run (m.movedTo c) =
      (f v).perform.run (m.movedTo (c.advance 2)) :=
  run_fetch_bind Request.fetches_readU16 (takeHalf?_eq_some_iff.mpr h) f

theorem run_readU32_bind {v : UInt32} (h : c.rest = Bytes.ofUInt32 v ++ back)
    (f : UInt32 → Program κ β) :
    (send .readU32 >>= f).perform.run (m.movedTo c) =
      (f v).perform.run (m.movedTo (c.advance 4)) :=
  run_fetch_bind Request.fetches_readU32 (takeWord?_eq_some_iff.mpr h) f

/-- Reading an address is moving behind it and then finding its place. -/
theorem run_readTarget_of_rest {v : UInt32} (h : c.rest = Bytes.ofUInt32 v ++ back) :
    readTarget.run (m.movedTo c) = (resolve v).run (m.movedTo (c.advance 4)) := by
  have hread : c.readU32 = .ok (v, c.advance 4) :=
    (Cursor.readAs_of_some takes_word (takeWord?_eq_some_iff.mpr h)).1
  simp only [readTarget, resolve, Machine.activity_movedTo, hread, Cursor.script_advance,
    Cursor.offset_advance, Nat.add_sub_cancel]
  rfl

theorem run_readTarget_bind {v : UInt32} (h : c.rest = Bytes.ofUInt32 v ++ back)
    {f : Cursor → Program κ β} {g : Cursor → Action κ β}
    (hf : ∀ target, (f target).perform = g target) :
    (send .readTarget >>= f).perform.run (m.movedTo c) =
      (resolve v >>= g).run (m.movedTo (c.advance 4)) := by
  rw [perform_send_bind .readTarget hf]
  change (readTarget >>= g).run (m.movedTo c) = _
  rw [run_bind, run_readTarget_of_rest h, ← run_bind]

theorem run_readCondition_bind {condition : Condition} (h : c.rest = condition.toByte :: back)
    (f : Condition → Program κ β) :
    (readCondition >>= f).perform.run (m.movedTo c) =
      (f condition).perform.run (m.movedTo (c.advance 1)) := by
  have hcode : Condition.ofByte condition.toByte = .ok condition :=
    Condition.ofByte_eq_ok_iff.mpr rfl
  have hread : readCondition.perform.run (m.movedTo c) =
      ⟨.ok condition, m.movedTo (c.advance 1), []⟩ := by
    refine (run_send_bind (r := .look) rfl _).trans ((run_readU8_bind h _).trans ?_)
    rw [hcode]
    rfl
  rw [perform_bind, run_bind, hread]
  rfl

/-- **Reading, then executing.** Where the operands of an instruction stand in front of the cursor,
its command does what the instruction does with the cursor behind them. -/
theorem run_core_of_rest {i : Instruction} (h : c.rest = i.operands ++ back) :
    (core i.opcode).perform.run (m.movedTo c) =
      i.execute.run (m.movedTo (c.advance i.operands.length)) := by
  -- Operand by operand the cursor moves on; what is left of the command is the instruction.
  cases i with
  | nop | wait => rfl
  | stop => exact run_send_bind_eq .stop (fun _ ↦ rfl) _
  | ret => exact run_send_bind_eq .ret (fun _ ↦ rfl) _
  | lockInput => exact run_send_bind_eq (.setInputControl false) (fun _ ↦ rfl) _
  | releaseInput =>
    refine run_send_bind_eq (.setInputControl true) (fun _ ↦ ?_) _
    exact perform_send_bind (.setDirection 0) fun _ ↦ rfl
  | call address =>
    exact run_readTarget_bind h fun target ↦ perform_send_bind (.call target) fun _ ↦ rfl
  | goto address =>
    exact run_readTarget_bind h fun target ↦ perform_send_bind (.jump target) fun _ ↦ rfl
  | gotoIf condition address =>
    refine (run_readCondition_bind h _).trans ?_
    refine run_readTarget_bind (Cursor.rest_advance_of_eq_cons h) fun target ↦ ?_
    refine (perform_judge_bind condition _).trans (congrArg _ (funext fun n ↦ ?_))
    cases condition.holds n.comparison with
    | false => rfl
    | true => exact perform_send_bind (.jump target) fun _ ↦ rfl
  | callIf condition address =>
    refine (run_readCondition_bind h _).trans ?_
    refine run_readTarget_bind (Cursor.rest_advance_of_eq_cons h) fun target ↦ ?_
    refine (perform_judge_bind condition _).trans (congrArg _ (funext fun n ↦ ?_))
    cases condition.holds n.comparison with
    | false => rfl
    | true => exact perform_send_bind (.call target) fun _ ↦ rfl
  | face direction =>
    refine (run_readU8_bind h _).trans ?_
    exact run_send_bind_eq (.setDirection direction) (fun _ ↦ rfl) _
  | loadBank bank value =>
    refine (run_readU8_bind h _).trans ?_
    refine (run_readU32_bind (Cursor.rest_advance_of_eq_cons h) _).trans ?_
    exact run_send_bind_eq (.writeBank bank.toNat value) (fun _ ↦ rfl) _
  | compareBank bank value =>
    refine (run_readU8_bind h _).trans ?_
    refine (run_readU32_bind (Cursor.rest_advance_of_eq_cons h) _).trans ?_
    refine run_send_bind_eq (.readBank bank.toNat) (fun current ↦ ?_) _
    exact perform_send_bind (.setComparison (comparisonOf current value)) fun _ ↦ rfl
  | addBank bank value =>
    refine (run_readU8_bind h _).trans ?_
    refine (run_readU32_bind (Cursor.rest_advance_of_eq_cons h) _).trans ?_
    refine run_send_bind_eq (.readBank bank.toNat) (fun current ↦ ?_) _
    exact perform_send_bind (.writeBank bank.toNat (current + value)) fun _ ↦ rfl
  | copyBank destination source =>
    refine (run_readU8_bind h _).trans ?_
    refine (run_readU8_bind (Cursor.rest_advance_of_eq_cons h) _).trans ?_
    refine run_send_bind_eq (.readBank source.toNat) (fun value ↦ ?_) _
    exact perform_send_bind (.writeBank destination.toNat value) fun _ ↦ rfl
  | setTemp id value =>
    have hsplit : c.rest = Bytes.ofUInt16 id ++ (Bytes.ofUInt16 value ++ back) := by
      rw [h, operands, List.append_assoc]
    refine (run_readU16_bind hsplit _).trans ?_
    refine (run_readU16_bind (Cursor.rest_advance_of_eq_append hsplit) _).trans ?_
    exact run_send_bind_eq (.writeTemporary id value) (fun _ ↦ rfl) _
  | loadTemp bank id =>
    refine (run_readU8_bind h _).trans ?_
    refine (run_readU16_bind (Cursor.rest_advance_of_eq_cons h) _).trans ?_
    refine run_send_bind_eq (.readTemporary id) (fun value ↦ ?_) _
    exact perform_send_bind (.writeBank bank.toNat value.toUInt32) fun _ ↦ rfl
  | storeTemp id bank =>
    have hsplit : c.rest = Bytes.ofUInt16 id ++ (bank :: back) := by
      rw [h, operands, List.append_assoc, List.singleton_append]
    refine (run_readU16_bind hsplit _).trans ?_
    refine (run_readU8_bind (Cursor.rest_advance_of_eq_append hsplit) _).trans ?_
    refine run_send_bind_eq (.readBank bank.toNat) (fun value ↦ ?_) _
    exact perform_send_bind (.writeTemporary id value.toUInt16) fun _ ↦ rfl

end Command

namespace Action

/-- **A dispatch unit is an instruction**, where the core table is bound and the cursor stands in
front of one. -/
theorem run_dispatch_of_instruction [CommandSet κ] [Handlers κ] [CoreHandlers κ] {m : Machine κ}
    {c : Cursor} {i : Instruction} {back : List UInt8} (htable : m.table = .core)
    (h : c.rest = i.encode ++ back) :
    dispatch.run (m.movedTo c) =
      { (heeding i.execute).run (m.movedTo (c.advance i.opcode.size)) with
        events := .dispatched i.opcode.toByte c.offset m.table.name ::
          ((heeding i.execute).run (m.movedTo (c.advance i.opcode.size))).events } := by
  have hlookup : m.table.lookup i.opcode.toByte = .ok (CommandSet.core i.opcode) := by
    rw [htable, CommandTable.lookup_core]
  have hcommand : (Handlers.handle (CommandSet.core i.opcode)).run (m.movedTo (c.advance 1)) =
      i.execute.run (m.movedTo (c.advance i.opcode.size)) := by
    rw [CoreHandlers.handle_core, Command.run_core_of_rest (Cursor.rest_advance_of_eq_cons h),
      Cursor.advance_advance, Instruction.one_add_length_operands]
  have hheeding : (heeding (Handlers.handle (CommandSet.core i.opcode))).run
      (m.movedTo (c.advance 1)) =
        (heeding i.execute).run (m.movedTo (c.advance i.opcode.size)) := by
    rw [heeding, run_bind, hcommand, ← run_bind, ← heeding]
  rw [run_dispatch_of_command h hlookup, hheeding]

end Action

end EventScript
