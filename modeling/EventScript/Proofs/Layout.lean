import Mathlib.Algebra.Ring.Nat
import EventScript.Assembler
import EventScript.Proofs.Execution

/-!
# The layout of instructions

Three parts of the library know how an instruction is stored: the assembler, which writes it operand
by operand, `Opcode.size`, and the core commands, which read it back operand by operand. This file
shows that they agree, for every sequence of instructions and in both directions.

## Decoding by the commands

What a command reads is observed and not described anew: `Program.operands` carries a program out
and lists the operands that it takes from the script, whatever else it does and however it ends.
Decoding reads an opcode byte, lists what the command of the core table reads behind it, and makes
an instruction of that.

## The fields of an opcode

`Opcode.fields` says what will be seen. The list of operands is then a matter of the bytes alone,
and both directions are facts about byte lists.
-/

namespace EventScript

open Instruction

variable {κ α β : Type}

/-! ## Decoding -/

/-- An operand as it is read. -/
inductive Operand where
  | byte (value : UInt8)
  | half (value : UInt16)
  | word (value : UInt32)
  deriving DecidableEq

/-- The bytes of an operand. -/
def Operand.bytes : Operand → List UInt8
  | byte value => [value]
  | half value => Bytes.ofUInt16 value
  | word value => Bytes.ofUInt32 value

/-- The operand that the request takes from the script at a cursor. An address counts as read also
when it points beyond the script. -/
def Request.operand? : Request κ → Cursor → Option Operand
  | readU8, c => c.readU8.toOption.map fun x ↦ .byte x.1
  | readU16, c => c.readU16.toOption.map fun x ↦ .half x.1
  | readU32, c | readTarget, c => c.readU32.toOption.map fun x ↦ .word x.1
  | _, _ => none

/-- The operands that a program reads when it is carried out, in order. -/
def Program.operands : Program κ α → Machine κ → List Operand
  | done _, _ | fail _, _ => []
  | ask request next, m =>
    (m.position?.bind request.operand?).toList ++
      (next (request.perform.run m).result).operands (request.perform.run m).machine

/-- The instruction of an opcode with these operands, in the order of reading. -/
def Instruction.ofOperands? (op : Opcode) : List Operand → Option Instruction
  | [] =>
    match op with
    | .nop => some nop
    | .stop => some stop
    | .ret => some ret
    | .wait => some wait
    | .lockInput => some lockInput
    | .releaseInput => some releaseInput
    | _ => none
  | [.byte value] =>
    match op with
    | .face => some (face value)
    | _ => none
  | [.word value] =>
    match op with
    | .call => some (call value)
    | .goto => some (goto value)
    | _ => none
  | [.byte first, .word second] =>
    match op with
    | .gotoIf =>
      (Condition.ofByte first).toOption.map fun condition ↦ gotoIf condition second
    | .callIf =>
      (Condition.ofByte first).toOption.map fun condition ↦ callIf condition second
    | .loadBank => some (loadBank first second)
    | .compareBank => some (compareBank first second)
    | .addBank => some (addBank first second)
    | _ => none
  | [.byte first, .byte second] =>
    match op with
    | .copyBank => some (copyBank first second)
    | _ => none
  | [.half first, .half second] =>
    match op with
    | .setTemp => some (setTemp first second)
    | _ => none
  | [.byte first, .half second] =>
    match op with
    | .loadTemp => some (loadTemp first second)
    | _ => none
  | [.half first, .byte second] =>
    match op with
    | .storeTemp => some (storeTemp first second)
    | _ => none
  | _ => none

/-- The instruction at a cursor and the place behind it: an opcode, and the operands that its
command in the core table reads when it is carried out there. -/
def decodeAt [CommandSet κ] (m : Machine κ) (c : Cursor) : Option (Instruction × Cursor) := do
  let (byte, next) ← c.readU8.toOption
  let op ← (Opcode.ofByte byte).toOption
  let command ← ((CommandTable.core : CommandTable κ).lookup byte).toOption
  let operands := (CommandSet.routine command).operands (m.movedTo next)
  let i ← ofOperands? op operands
  return (i, next.advance (operands.flatMap Operand.bytes).length)

/-- Decodes instruction after instruction until the script ends; also gives the place where it
ended. -/
def decodeUpTo [CommandSet κ] (m : Machine κ) :
    (count : Nat) → Cursor → Option (List Instruction × Cursor)
  | 0, c => if c.atEnd then some ([], c) else none
  | count + 1, c =>
    if c.atEnd then some ([], c)
    else do
      let (i, next) ← decodeAt m c
      let (others, last) ← decodeUpTo m count next
      return (i :: others, last)

/-- Decodes a script from its first byte to its end. There are no more instructions than bytes. -/
def disassemble [CommandSet κ] (m : Machine κ) (s : Script) : Option (List Instruction × Cursor) :=
  decodeUpTo m s.length s.start

/-! ## Operands and their bytes -/

theorem eq_of_ofOperands? {op : Opcode} {operands : List Operand} {i : Instruction}
    (h : ofOperands? op operands = some i) :
    i.opcode = op ∧ operands.flatMap Operand.bytes = i.operands := by
  have hcondition : ∀ {code : UInt8} {condition : Condition},
      (Condition.ofByte code).toOption = some condition → code = condition.toByte := by
    intro code condition hcode
    cases hof : Condition.ofByte code with
    | error e =>
      rw [hof] at hcode
      cases hcode
    | ok found =>
      rw [hof] at hcode
      cases hcode
      exact Condition.ofByte_eq_ok_iff.mp hof
  unfold ofOperands? at h
  split at h
  case h_4 first second =>
    split at h
    case h_1 | h_2 =>
      obtain ⟨condition, hcode, rfl⟩ := Option.map_eq_some_iff.mp h
      rw [hcondition hcode]
      exact ⟨rfl, rfl⟩
    all_goals cases h
    all_goals exact ⟨rfl, rfl⟩
  case h_9 => cases h
  all_goals
    split at h
    all_goals cases h
    all_goals exact ⟨rfl, rfl⟩

/-- A field of a stored instruction. -/
inductive Field where
  | byte
  | half
  | word
  /-- A byte that is a condition code. -/
  | condition

namespace Field

/-- The operand in the field, and the bytes behind it. -/
def take? : Field → List UInt8 → Option (Operand × List UInt8)
  | byte, bytes | condition, bytes => (takeByte? bytes).map fun x ↦ (.byte x.1, x.2)
  | half, bytes => (takeHalf? bytes).map fun x ↦ (.half x.1, x.2)
  | word, bytes => (takeWord? bytes).map fun x ↦ (.word x.1, x.2)

/-- Reading goes on behind the field unless it should hold a condition and does not. -/
def admits : Field → Operand → Bool
  | condition, .byte code => (Condition.ofByte code).isOk
  | _, _ => true

theorem eq_append_of_take? {field : Field} {operand : Operand} {bytes rest : List UInt8}
    (h : field.take? bytes = some (operand, rest)) : bytes = operand.bytes ++ rest := by
  cases field with
  | byte | condition =>
    obtain ⟨⟨value, others⟩, htake, heq⟩ := Option.map_eq_some_iff.mp h
    cases heq
    exact takeByte?_eq_some_iff.mp htake
  | half =>
    obtain ⟨⟨value, others⟩, htake, heq⟩ := Option.map_eq_some_iff.mp h
    cases heq
    exact takeHalf?_eq_some_iff.mp htake
  | word =>
    obtain ⟨⟨value, others⟩, htake, heq⟩ := Option.map_eq_some_iff.mp h
    cases heq
    exact takeWord?_eq_some_iff.mp htake

/-- The operands in a sequence of fields, as far as they can be read. -/
def takeAll : List Field → List UInt8 → List Operand
  | [], _ => []
  | field :: fields, bytes =>
    match field.take? bytes with
    | none => []
    | some (operand, rest) => operand :: if field.admits operand then takeAll fields rest else []

theorem prefix_takeAll (fields : List Field) (bytes : List UInt8) :
    (takeAll fields bytes).flatMap Operand.bytes <+: bytes := by
  induction fields generalizing bytes with
  | nil => exact List.nil_prefix
  | cons field fields ih =>
    rw [takeAll]
    cases htake : field.take? bytes with
    | none => exact List.nil_prefix
    | some taken =>
      obtain ⟨operand, rest⟩ := taken
      rw [eq_append_of_take? htake]
      dsimp only
      rw [List.flatMap_cons, List.prefix_append_right_inj]
      split
      · exact ih rest
      · exact List.nil_prefix

end Field

/-- The fields behind an opcode. -/
def Opcode.fields : Opcode → List Field
  | nop | stop | ret | wait | lockInput | releaseInput => []
  | call | goto => [.word]
  | gotoIf | callIf => [.condition, .word]
  | loadBank | compareBank | addBank => [.byte, .word]
  | copyBank => [.byte, .byte]
  | face => [.byte]
  | setTemp => [.half, .half]
  | loadTemp => [.byte, .half]
  | storeTemp => [.half, .byte]

theorem Instruction.ofOperands?_takeAll (i : Instruction) (back : List UInt8) :
    ofOperands? i.opcode (Field.takeAll i.opcode.fields (i.operands ++ back)) = some i := by
  cases i with
  | nop | stop | ret | wait | lockInput | releaseInput => rfl
  | gotoIf condition target | callIf condition target =>
    have hcode : Condition.ofByte condition.toByte = .ok condition :=
      Condition.ofByte_eq_ok_iff.mpr rfl
    simp [opcode, operands, Opcode.fields, Field.takeAll, Field.take?, Field.admits, ofOperands?,
      hcode, Except.isOk, Except.toBool, Except.toOption]
  | _ =>
    simp [opcode, operands, Opcode.fields, Field.takeAll, Field.take?, Field.admits, ofOperands?]

/-! ## What the commands read -/

/-- The request reads nothing from the script. -/
def Request.Silent : Request κ → Prop
  | readU8 | readU16 | readU32 | readTarget => False
  | _ => True

theorem Request.Silent.operand? {r : Request κ} (hr : r.Silent) (c : Cursor) :
    r.operand? c = none := by
  cases r with
  | readU8 | readU16 | readU32 | readTarget => exact hr.elim
  | _ => rfl

namespace Program

theorem operands_bind (p : Program κ α) (f : α → Program κ β) (m : Machine κ) :
    (p >>= f).operands m = p.operands m ++ match (p.perform.run m).result with
      | .ok a => (f a).operands (p.perform.run m).machine
      | .error _ => [] := by
  induction p generalizing m with
  | done a => rfl
  | fail e => rfl
  | ask request next ih =>
    change (ask request fun answer ↦ next answer >>= f).operands m = _
    rw [operands, operands, ih, run_perform_ask, List.append_assoc]

theorem operands_send (r : Request κ) (m : Machine κ) :
    (send r).operands m = (m.position?.bind r.operand?).toList := by
  rw [send, operands]
  cases (r.perform.run m).result <;> exact List.append_nil _

theorem operands_of_silent {p : Program κ α} (h : p.All Request.Silent) (m : Machine κ) :
    p.operands m = [] := by
  induction p generalizing m with
  | done a => rfl
  | fail e => rfl
  | ask request next ih =>
    have hnone : m.position?.bind request.operand? = none := by
      cases m.position? with
      | none => rfl
      | some c => exact h.1.operand? c
    rw [operands, hnone, ih _ (h.2 _)]
    rfl

theorem operands_send_bind (r : Request κ) (f : r.Answer → Program κ β) (m : Machine κ)
    (c : Cursor) :
    (send r >>= f).operands (m.movedTo c) =
      (r.operand? c).toList ++ match (r.perform.run (m.movedTo c)).result with
        | .ok a => (f a).operands (r.perform.run (m.movedTo c)).machine
        | .error _ => [] := by
  have hposition : (m.movedTo c).position? = some c := rfl
  rw [operands_bind, operands_send, perform_send, hposition]
  cases (r.perform.run (m.movedTo c)).result <;> rfl

/-- A request that reads an operand shows it, made into an operand of its kind. -/
theorem operands_fetch_bind {r : Request κ} {take? : List UInt8 → Option (r.Answer × List UInt8)}
    {width : Nat} {decode : List UInt8 → r.Answer} (hr : r.Fetches take? width decode)
    {make : r.Answer → Operand}
    (hmake : ∀ c, r.operand? c = (c.readAs width decode).toOption.map fun x ↦ make x.1)
    (f : r.Answer → Program κ β) (m : Machine κ) (c : Cursor) :
    (send r >>= f).operands (m.movedTo c) = match take? c.rest with
      | some (a, _) => make a :: (f a).operands (m.movedTo (c.advance width))
      | none => [] := by
  rw [operands_send_bind, hmake]
  cases htake : take? c.rest with
  | none =>
    rw [hr.run_of_none htake, Cursor.readAs_of_none hr.toTakes htake]
    rfl
  | some taken =>
    rw [hr.run_of_some htake, (Cursor.readAs_of_some hr.toTakes htake).1]
    rfl

/-- What the program reads is what the fields hold. -/
def Fits (fields : List Field) (p : Program κ α) : Prop :=
  ∀ (m : Machine κ) (c : Cursor), p.operands (m.movedTo c) = Field.takeAll fields c.rest

variable {fields : List Field}

theorem fits_of_silent {p : Program κ α} (h : p.All Request.Silent) : p.Fits [] :=
  fun m c ↦ operands_of_silent h (m.movedTo c)

theorem fits_fetch_bind {r : Request κ} {take? : List UInt8 → Option (r.Answer × List UInt8)}
    {width : Nat} {decode : List UInt8 → r.Answer} (hr : r.Fetches take? width decode)
    {make : r.Answer → Operand}
    (hmake : ∀ c, r.operand? c = (c.readAs width decode).toOption.map fun x ↦ make x.1)
    {field : Field}
    (hfield : ∀ bytes, field.take? bytes = (take? bytes).map fun x ↦ (make x.1, x.2))
    (hadmits : ∀ a, field.admits (make a) = true) {f : r.Answer → Program κ β}
    (hf : ∀ a, (f a).Fits fields) : (send r >>= f).Fits (field :: fields) := by
  intro m c
  rw [operands_fetch_bind hr hmake, Field.takeAll, hfield]
  cases htake : take? c.rest with
  | none => rfl
  | some taken =>
    obtain ⟨a, rest⟩ := taken
    have hrest : (c.advance width).rest = rest := (Cursor.readAs_of_some hr.toTakes htake).2
    simp only [Option.map_some, hadmits, if_true, hf a m, hrest]

theorem fits_readU8_bind {f : UInt8 → Program κ β} (hf : ∀ b, (f b).Fits fields) :
    (send .readU8 >>= f).Fits (.byte :: fields) :=
  fits_fetch_bind Request.fetches_readU8 (fun _ ↦ rfl) (fun _ ↦ rfl) (fun _ ↦ rfl) hf

theorem fits_readU16_bind {f : UInt16 → Program κ β} (hf : ∀ v, (f v).Fits fields) :
    (send .readU16 >>= f).Fits (.half :: fields) :=
  fits_fetch_bind Request.fetches_readU16 (fun _ ↦ rfl) (fun _ ↦ rfl) (fun _ ↦ rfl) hf

theorem fits_readU32_bind {f : UInt32 → Program κ β} (hf : ∀ v, (f v).Fits fields) :
    (send .readU32 >>= f).Fits (.word :: fields) :=
  fits_fetch_bind Request.fetches_readU32 (fun _ ↦ rfl) (fun _ ↦ rfl) (fun _ ↦ rfl) hf

/-- An address is read even if it leads nowhere; nothing may be read behind it. -/
theorem fits_readTarget_bind {f : Cursor → Program κ β} (hf : ∀ target, (f target).Fits []) :
    (send .readTarget >>= f).Fits [.word] := by
  intro m c
  rw [operands_send_bind, Request.operand?, Field.takeAll, Field.take?]
  cases htake : takeWord? c.rest with
  | none =>
    have hread : c.readU32 = .error (c.truncation 4) := Cursor.readAs_of_none takes_word htake
    have hrun : (Request.readTarget : Request κ).perform.run (m.movedTo c) =
        ⟨.error (c.truncation 4), m.movedTo c, []⟩ := by
      simp only [Request.perform, Action.readTarget, Machine.activity_movedTo, hread]
    rw [hread, hrun]
    rfl
  | some taken =>
    obtain ⟨v, rest⟩ := taken
    have hread : c.readU32 = .ok (v, c.advance 4) :=
      (Cursor.readAs_of_some takes_word htake).1
    have hrun : (Request.readTarget : Request κ).perform.run (m.movedTo c) =
        (Action.resolve v).run (m.movedTo (c.advance 4)) :=
      Command.run_readTarget_of_rest (takeWord?_eq_some_iff.mp htake)
    rw [hread, hrun]
    simp only [Action.resolve, Machine.activity_movedTo]
    split
    case h_1 target _ =>
      rw [hf target]
      rfl
    case h_2 => rfl

theorem bind_assoc {γ : Type} (p : Program κ α) (f : α → Program κ β) (g : β → Program κ γ) :
    p >>= f >>= g = p >>= fun a ↦ f a >>= g := by
  induction p with
  | done a => rfl
  | fail e => rfl
  | ask request next ih => exact congrArg (ask request) (funext ih)

theorem fits_readCondition_bind {f : Condition → Program κ β} (hf : ∀ b, (f b).Fits fields) :
    (Command.readCondition >>= f).Fits (.condition :: fields) := by
  intro m c
  -- The look at the context, for the place of the code, reads nothing.
  rw [Command.readCondition, bind_assoc, operands_send_bind]
  change (_ >>= f).operands (m.movedTo c) = _
  rw [bind_assoc, operands_fetch_bind Request.fetches_readU8 fun _ ↦ rfl,
    Field.takeAll, Field.take?]
  cases htake : takeByte? c.rest with
  | none => rfl
  | some taken =>
    obtain ⟨code, rest⟩ := taken
    have hrest : (c.advance 1).rest = rest :=
      Cursor.rest_advance_of_eq_cons (takeByte?_eq_some_iff.mp htake)
    cases hcode : Condition.ofByte code with
    | error e =>
      simp only [Option.map_some, Field.admits, hcode]
      rfl
    | ok condition =>
      simp only [Option.map_some, Field.admits, hcode]
      rw [← hrest]
      exact congrArg (Operand.byte code :: ·) (hf condition m (c.advance 1))

end Program

namespace Command

open Program

/-- **What each core command reads.** -/
theorem fits_core (op : Opcode) : (core op : Program κ Verdict).Fits op.fields := by
  -- Behind the operands no command reads anything, so what it does there does not matter.
  cases op with
  | nop | wait => exact fits_of_silent trivial
  | stop | ret | lockInput => exact fits_of_silent (all_send_bind trivial fun _ ↦ trivial)
  | releaseInput =>
    exact fits_of_silent (all_send_bind trivial fun _ ↦ all_send_bind trivial fun _ ↦ trivial)
  | call | goto =>
    exact fits_readTarget_bind fun target ↦
      fits_of_silent (all_send_bind trivial fun _ ↦ trivial)
  | gotoIf | callIf =>
    refine fits_readCondition_bind fun condition ↦ fits_readTarget_bind fun target ↦ ?_
    refine fits_of_silent (all_bind (all_send_bind trivial fun _ ↦ trivial) fun holds ↦ ?_)
    split
    · exact all_send_bind trivial fun _ ↦ trivial
    · trivial
  | loadBank =>
    exact fits_readU8_bind fun bank ↦ fits_readU32_bind fun value ↦
      fits_of_silent (all_send_bind trivial fun _ ↦ trivial)
  | compareBank | addBank =>
    exact fits_readU8_bind fun bank ↦ fits_readU32_bind fun value ↦
      fits_of_silent (all_send_bind trivial fun _ ↦ all_send_bind trivial fun _ ↦ trivial)
  | copyBank =>
    exact fits_readU8_bind fun destination ↦ fits_readU8_bind fun source ↦
      fits_of_silent (all_send_bind trivial fun _ ↦ all_send_bind trivial fun _ ↦ trivial)
  | face =>
    exact fits_readU8_bind fun direction ↦
      fits_of_silent (all_send_bind trivial fun _ ↦ trivial)
  | setTemp =>
    exact fits_readU16_bind fun id ↦ fits_readU16_bind fun value ↦
      fits_of_silent (all_send_bind trivial fun _ ↦ trivial)
  | loadTemp =>
    exact fits_readU8_bind fun bank ↦ fits_readU16_bind fun id ↦
      fits_of_silent (all_send_bind trivial fun _ ↦ all_send_bind trivial fun _ ↦ trivial)
  | storeTemp =>
    exact fits_readU16_bind fun id ↦ fits_readU8_bind fun bank ↦
      fits_of_silent (all_send_bind trivial fun _ ↦ all_send_bind trivial fun _ ↦ trivial)

end Command

/-! ## Decoding and assembling -/

section decoding

variable [CommandSet κ] {m : Machine κ} {c : Cursor}

theorem decodeAt_of_rest {op : Opcode} {back : List UInt8} (h : c.rest = op.toByte :: back) :
    decodeAt m c = (ofOperands? op (Field.takeAll op.fields back)).map fun i ↦
      (i, (c.advance 1).advance ((Field.takeAll op.fields back).flatMap Operand.bytes).length) := by
  have hread : c.readU8 = .ok (op.toByte, c.advance 1) :=
    (Cursor.readAs_of_some takes_byte (takeByte?_eq_some_iff.mpr h)).1
  have hop : Opcode.ofByte op.toByte = .ok op := Opcode.ofByte_eq_ok_iff.mpr rfl
  have hoperands : (Command.core op).operands (m.movedTo (c.advance 1)) =
      Field.takeAll op.fields back := by
    rw [Command.fits_core op, Cursor.rest_advance_of_eq_cons h]
  simp only [decodeAt, hread, hop, CommandTable.lookup_core, Except.toOption, Option.bind_eq_bind,
    Option.bind_some, CommandSet.routine_core, hoperands]
  cases ofOperands? op (Field.takeAll op.fields back) <;> rfl

/-- **Decoding is reading back.** An instruction is decoded at a cursor exactly when its bytes stand
there, and decoding goes on behind them. -/
theorem decodeAt_eq_some_iff {i : Instruction} {next : Cursor} :
    decodeAt m c = some (i, next) ↔
      (∃ back, c.rest = i.encode ++ back) ∧ next = c.advance i.opcode.size := by
  constructor
  · intro h
    cases hrest : c.rest with
    | nil =>
      have hread : c.readU8 = .error (c.truncation 1) :=
        Cursor.readAs_of_none takes_byte (by rw [hrest, takeByte?])
      rw [decodeAt, hread] at h
      cases h
    | cons byte back =>
      cases hop : Opcode.ofByte byte with
      | error e =>
        have hread : c.readU8 = .ok (byte, c.advance 1) :=
          (Cursor.readAs_of_some takes_byte (takeByte?_eq_some_iff.mpr hrest)).1
        simp [decodeAt, hread, hop, Except.toOption] at h
      | ok op =>
        obtain rfl := Opcode.ofByte_eq_ok_iff.mp hop
        rw [decodeAt_of_rest hrest] at h
        obtain ⟨i, hi, heq⟩ := Option.map_eq_some_iff.mp h
        cases heq
        obtain ⟨rfl, hoperands⟩ := eq_of_ofOperands? hi
        -- The operands found spell those of the instruction, and they stand in front.
        obtain ⟨others, hothers⟩ := Field.prefix_takeAll i.opcode.fields back
        rw [hoperands] at hothers
        refine ⟨⟨others, ?_⟩, ?_⟩
        · rw [← hothers, encode, List.cons_append]
        · rw [hoperands, Cursor.advance_advance, one_add_length_operands]
  · rintro ⟨⟨back, hrest⟩, rfl⟩
    rw [encode, List.cons_append] at hrest
    have hread := ofOperands?_takeAll i back
    obtain ⟨-, hoperands⟩ := eq_of_ofOperands? hread
    rw [decodeAt_of_rest hrest, hread, hoperands, Option.map_some, Cursor.advance_advance,
      one_add_length_operands]

theorem decodeUpTo_of_nil (h : c.rest = []) (count : Nat) :
    decodeUpTo m count c = some ([], c) := by
  have hend : c.atEnd = true := Cursor.atEnd_iff.mpr h
  cases count <;> rw [decodeUpTo, if_pos hend]

theorem decodeUpTo_of_decodeAt {i : Instruction} {next : Cursor}
    (h : decodeAt m c = some (i, next)) (count : Nat) :
    decodeUpTo m (count + 1) c =
      (decodeUpTo m count next).map fun x ↦ (i :: x.1, x.2) := by
  obtain ⟨⟨back, hrest⟩, -⟩ := decodeAt_eq_some_iff.mp h
  have hend : c.atEnd = false := Cursor.atEnd_eq_false_of_rest hrest
  simp only [decodeUpTo, hend, h, Bool.false_eq_true, if_false, Option.bind_eq_bind,
    Option.bind_some]
  cases decodeUpTo m count next <;> rfl

/-- Decoding a sequence gives its instructions and ends behind them. -/
theorem decodeUpTo_of_rest {instructions : List Instruction} {count : Nat}
    (h : c.rest = instructions.flatMap encode) (hcount : c.rest.length ≤ count) :
    decodeUpTo m count c = some (instructions, c.advance c.rest.length) := by
  induction instructions generalizing c count with
  | nil =>
    rw [decodeUpTo_of_nil h, h]
    rfl
  | cons i others ih =>
    rw [List.flatMap_cons] at h
    have hdecode : decodeAt m c = some (i, c.advance i.encode.length) :=
      decodeAt_eq_some_iff.mpr ⟨⟨_, h⟩, by rw [length_encode]⟩
    have hnext : (c.advance i.encode.length).rest = others.flatMap encode :=
      Cursor.rest_advance_of_eq_append h
    have hlength : c.rest.length = i.encode.length + (c.advance i.encode.length).rest.length := by
      rw [hnext, h, List.length_append]
    -- An instruction has at least its opcode, so the count lasts to the end.
    have hpos : 0 < i.encode.length := List.length_pos_iff.mpr (List.cons_ne_nil _ _)
    obtain ⟨count, rfl⟩ : ∃ fewer, count = fewer + 1 := ⟨count - 1, by omega⟩
    rw [decodeUpTo_of_decodeAt hdecode, ih hnext (by omega), hlength, ← Cursor.advance_advance]
    rfl

theorem rest_eq_of_decodeUpTo {instructions : List Instruction} {count : Nat} {last : Cursor}
    (h : decodeUpTo m count c = some (instructions, last)) :
    c.rest = instructions.flatMap encode := by
  induction count generalizing c instructions with
  | zero =>
    by_cases hend : c.atEnd = true
    · rw [decodeUpTo, if_pos hend] at h
      cases h
      exact Cursor.atEnd_iff.mp hend
    · rw [decodeUpTo, if_neg hend] at h
      cases h
  | succ count ih =>
    by_cases hend : c.atEnd = true
    · rw [decodeUpTo, if_pos hend] at h
      cases h
      exact Cursor.atEnd_iff.mp hend
    · cases hdecode : decodeAt m c with
      | none =>
        rw [decodeUpTo, if_neg hend, hdecode] at h
        cases h
      | some decoded =>
        obtain ⟨i, next⟩ := decoded
        rw [decodeUpTo_of_decodeAt hdecode] at h
        obtain ⟨⟨others, end'⟩, hothers, heq⟩ := Option.map_eq_some_iff.mp h
        cases heq
        obtain ⟨⟨back, hrest⟩, rfl⟩ := decodeAt_eq_some_iff.mp hdecode
        have hback : (c.advance i.opcode.size).rest = back := by
          rw [← length_encode, Cursor.rest_advance_of_eq_append hrest]
        rw [hrest, List.flatMap_cons, ← ih hothers, hback]

end decoding

/-! ## Scripts -/

/-- The script of a program, as the assembler lays it out. -/
def assembled (id : Nat) (program : List Instruction) : Script :=
  (Assembler.empty.program program).toScript id

theorem bytes_program_empty (program : List Instruction) :
    (Assembler.empty.program program).bytes = program.flatMap encode := Assembler.bytes_program _ _

theorem toList_assembled (id : Nat) (program : List Instruction) :
    (assembled id program).bytes.toList = program.flatMap encode := bytes_program_empty program

theorem offset_program (program : List Instruction) :
    (Assembler.empty.program program).offset = (program.flatMap encode).length := by
  rw [Assembler.offset, bytes_program_empty]

theorem offset_program_eq_sum (program : List Instruction) :
    (Assembler.empty.program program).offset = (program.map fun i ↦ i.opcode.size).sum := by
  rw [offset_program, List.length_flatMap]
  simp only [length_encode]

theorem rest_start (s : Script) : s.start.rest = s.bytes.toList := rfl

/-- **The assembler and the commands agree on the layout.** Whatever the machine on which the
commands are observed: assembled instructions are decoded again, up to the very end; each of them
stands behind the sizes of those before it; a command does with the operands it reads what the
decoded instruction does; and bytes that can be decoded to the end are what the assembler makes of
the instructions found. -/
theorem layout_agrees [CommandSet κ] (m : Machine κ) (id : Nat) :
    (∀ program : List Instruction, disassemble m (assembled id program) =
      some (program, ⟨assembled id program, (assembled id program).length⟩)) ∧
    (∀ (program : List Instruction) (k : Nat), (Assembler.empty.program (program.take k)).offset =
      ((program.take k).map fun i ↦ i.opcode.size).sum) ∧
    (∀ (c next : Cursor) (i : Instruction), decodeAt m c = some (i, next) →
      (Command.core i.opcode).perform.run (m.movedTo (c.advance 1)) =
        i.execute.run (m.movedTo next)) ∧
    ∀ (bytes : List UInt8) (program : List Instruction) (last : Cursor),
      disassemble m (.ofBytes id bytes) = some (program, last) →
        (Assembler.empty.program program).bytes = bytes := by
  refine ⟨fun program ↦ ?_, fun program k ↦ offset_program_eq_sum _, fun c next i h ↦ ?_,
    fun bytes program last h ↦ ?_⟩
  · have hrest : (assembled id program).start.rest = program.flatMap encode := by
      rw [rest_start, toList_assembled]
    have hlength : (assembled id program).start.rest.length = (assembled id program).length := rfl
    rw [disassemble, decodeUpTo_of_rest hrest (Nat.le_of_eq hlength), hlength]
    simp [Cursor.advance, Script.start]
  · obtain ⟨⟨back, hrest⟩, rfl⟩ := decodeAt_eq_some_iff.mp h
    rw [Command.run_core_of_rest (Cursor.rest_advance_of_eq_cons hrest), Cursor.advance_advance,
      one_add_length_operands]
  · have hrest := rest_eq_of_decodeUpTo h
    rw [bytes_program_empty, ← hrest]
    rfl

/-- A conditional jump that leads nowhere, and the two commands that name a bank and a temporary in
opposite orders. -/
def mixedBytes : List UInt8 :=
  [0x05, 0x03, 0xef, 0xbe, 0xad, 0xde, 0x10, 0x02, 0x01, 0x80, 0x11, 0x0d, 0x80, 0x07]

theorem layout_agrees_mixed :
    disassemble (Machine.new "primary" : Machine Opcode) (.ofBytes 0 mixedBytes) =
        some ([.gotoIf .lessOrEqual 0xdeadbeef, .loadTemp 2 0x8001, .storeTemp 0x800d 7],
          ⟨.ofBytes 0 mixedBytes, 14⟩) ∧
      (Assembler.empty.program
        [.gotoIf .lessOrEqual 0xdeadbeef, .loadTemp 2 0x8001, .storeTemp 0x800d 7]).bytes =
          mixedBytes := by
  have hdecode : disassemble (Machine.new "primary" : Machine Opcode) (.ofBytes 0 mixedBytes) =
      some ([.gotoIf .lessOrEqual 0xdeadbeef, .loadTemp 2 0x8001, .storeTemp 0x800d 7],
        ⟨.ofBytes 0 mixedBytes, 14⟩) := by
    decide
  exact ⟨hdecode, (layout_agrees _ 0).2.2.2 mixedBytes _ _ hdecode⟩

end EventScript
