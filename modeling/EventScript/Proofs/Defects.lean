import EventScript.Proofs.Layout

/-!
# Defects of programs

A core command reads its operands as it goes along, so what is wrong with a program shows up in the
middle of a command. This file says from the bytes alone what will show up. `Cursor.defect?` looks
at the opcode and then at the fields behind it from left to right: the first that does not fit, or
that should be a condition and is none, is the defect, and it is reported at that field.

Where there is a defect, a dispatch unit ends with it and has done nothing else but move the cursor.
Where there is none, an instruction stands in front of the cursor, and `Proofs/Execution` says what
its command does.
-/

namespace EventScript

open Instruction

variable {κ α β : Type}

/-! ## Decoding -/

/-- The number of bytes of a field. -/
def Field.width : Field → Nat
  | byte | condition => 1
  | half => 2
  | word => 4

/-- What is wrong with a field in front of the cursor. -/
def Field.flaw? (field : Field) (c : Cursor) : Option Fault :=
  if c.remaining < field.width then
    some (.corruptProgram c.offset (.truncatedOperand field.width c.remaining))
  else
    match field, c.rest with
    | condition, code :: _ =>
      if 5 < code.toNat then some (.corruptProgram c.offset (.invalidCondition code)) else none
    | _, _ => none

/-- What is wrong with the first of the fields with which something is wrong. -/
def Field.firstFlaw? : List Field → Cursor → Option Fault
  | [], _ => none
  | field :: fields, c => (field.flaw? c).or (firstFlaw? fields (c.advance field.width))

/-- Why no core instruction stands in front of the cursor. -/
def Cursor.defect? (c : Cursor) : Option Fault :=
  match c.rest with
  | [] => none
  | byte :: _ =>
    if h : byte.toNat < 18 then
      Field.firstFlaw? (Opcode.all.get ⟨byte.toNat, h⟩).fields (c.advance 1)
    else some (.corruptProgram c.offset (.opcodeOutOfRange byte 18))

/-! ## Fields and their flaws -/

namespace Field

variable {field : Field} {c : Cursor}

theorem flaw?_of_lt (h : c.remaining < field.width) :
    field.flaw? c = some (c.truncation field.width) := if_pos h

theorem flaw?_of_ne (hne : field ≠ condition) (h : ¬c.remaining < field.width) :
    field.flaw? c = none := by
  cases field with
  | condition => exact absurd rfl hne
  | byte | half | word => exact if_neg h

theorem flaw?_condition {code : UInt8} {back : List UInt8} (h : c.rest = code :: back) :
    condition.flaw? c = if 5 < code.toNat then
      some (.corruptProgram c.offset (.invalidCondition code)) else none := by
  have hroom : ¬c.remaining < condition.width := by
    rw [← Cursor.length_rest, h]
    exact Nat.not_lt.mpr (Nat.le_add_left 1 back.length)
  simp only [flaw?, if_neg hroom, h]

theorem firstFlaw?_cons_eq_none_iff {fields : List Field} :
    firstFlaw? (field :: fields) c = none ↔
      field.flaw? c = none ∧ firstFlaw? fields (c.advance field.width) = none := by
  rw [firstFlaw?, Option.or_eq_none_iff]

theorem width_le_of_flaw? (h : field.flaw? c = none) : field.width ≤ c.rest.length := by
  rw [Cursor.length_rest]
  refine Nat.not_lt.mp fun hlt ↦ ?_
  rw [flaw?_of_lt hlt] at h
  cases h

end Field

theorem Condition.exists_ofByte_iff {code : UInt8} :
    (∃ condition, ofByte code = .ok condition) ↔ ¬5 < code.toNat := by
  constructor
  · rintro ⟨condition, h⟩
    rw [ofByte_eq_ok_iff] at h
    subst h
    cases condition <;> decide
  · intro h
    have hlt : code.toNat < all.length := Nat.lt_succ_of_le (Nat.not_lt.mp h)
    exact ⟨all[code.toNat], by rw [ofByte, List.getElem?_eq_getElem hlt]⟩

theorem Field.takeCondition?_of_flaw? {c : Cursor} (h : condition.flaw? c = none) :
    ∃ code, takeCondition? c.rest = some (code, (c.advance 1).rest) := by
  obtain ⟨b, hb⟩ := Cursor.exists_take? takes_byte (width_le_of_flaw? h)
  have hrest := takeByte?_eq_some_iff.mp hb
  rw [flaw?_condition hrest] at h
  have hcode : ¬5 < b.toNat := by
    intro hlt
    rw [if_pos hlt] at h
    cases h
  obtain ⟨code, hof⟩ := Condition.exists_ofByte_iff.mpr hcode
  exact ⟨code, takeCondition?_eq_some_iff.mpr (by rw [hrest, Condition.ofByte_eq_ok_iff.mp hof])⟩

/-- **Without a flaw in its fields an instruction can be decoded.** -/
theorem Instruction.exists_decodeOperands? {op : Opcode} {c : Cursor}
    (h : Field.firstFlaw? op.fields c = none) :
    ∃ i back, decodeOperands? op c.rest = some (i, back) := by
  cases op <;> simp only [Opcode.fields, Field.firstFlaw?_cons_eq_none_iff, Field.width] at h
  case nop | stop | ret | wait | lockInput | releaseInput => exact ⟨_, _, rfl⟩
  case call | goto =>
    obtain ⟨v, hv⟩ := Cursor.exists_take? takes_word (Field.width_le_of_flaw? h.1)
    simp only [decodeOperands?, hv, Option.bind_eq_bind, Option.bind_some]
    exact ⟨_, _, rfl⟩
  case face =>
    obtain ⟨b, hb⟩ := Cursor.exists_take? takes_byte (Field.width_le_of_flaw? h.1)
    simp only [decodeOperands?, hb, Option.bind_eq_bind, Option.bind_some]
    exact ⟨_, _, rfl⟩
  case gotoIf | callIf =>
    obtain ⟨code, hcode⟩ := Field.takeCondition?_of_flaw? h.1
    obtain ⟨v, hv⟩ := Cursor.exists_take? takes_word (Field.width_le_of_flaw? h.2.1)
    simp only [decodeOperands?, hcode, hv, Option.bind_eq_bind, Option.bind_some]
    exact ⟨_, _, rfl⟩
  case loadBank | compareBank | addBank =>
    obtain ⟨b, hb⟩ := Cursor.exists_take? takes_byte (Field.width_le_of_flaw? h.1)
    obtain ⟨v, hv⟩ := Cursor.exists_take? takes_word (Field.width_le_of_flaw? h.2.1)
    simp only [decodeOperands?, hb, hv, Option.bind_eq_bind, Option.bind_some]
    exact ⟨_, _, rfl⟩
  case copyBank =>
    obtain ⟨b, hb⟩ := Cursor.exists_take? takes_byte (Field.width_le_of_flaw? h.1)
    obtain ⟨d, hd⟩ := Cursor.exists_take? takes_byte (Field.width_le_of_flaw? h.2.1)
    simp only [decodeOperands?, hb, hd, Option.bind_eq_bind, Option.bind_some]
    exact ⟨_, _, rfl⟩
  case setTemp =>
    obtain ⟨u, hu⟩ := Cursor.exists_take? takes_half (Field.width_le_of_flaw? h.1)
    obtain ⟨v, hv⟩ := Cursor.exists_take? takes_half (Field.width_le_of_flaw? h.2.1)
    simp only [decodeOperands?, hu, hv, Option.bind_eq_bind, Option.bind_some]
    exact ⟨_, _, rfl⟩
  case loadTemp =>
    obtain ⟨b, hb⟩ := Cursor.exists_take? takes_byte (Field.width_le_of_flaw? h.1)
    obtain ⟨v, hv⟩ := Cursor.exists_take? takes_half (Field.width_le_of_flaw? h.2.1)
    simp only [decodeOperands?, hb, hv, Option.bind_eq_bind, Option.bind_some]
    exact ⟨_, _, rfl⟩
  case storeTemp =>
    obtain ⟨v, hv⟩ := Cursor.exists_take? takes_half (Field.width_le_of_flaw? h.1)
    obtain ⟨b, hb⟩ := Cursor.exists_take? takes_byte (Field.width_le_of_flaw? h.2.1)
    simp only [decodeOperands?, hv, hb, Option.bind_eq_bind, Option.bind_some]
    exact ⟨_, _, rfl⟩

/-! ## Commands in front of flawed fields -/

namespace Program

theorem run_send_bind_of_error {r : Request κ} {m n : Machine κ} {e : Fault}
    (h : r.perform.run m = ⟨.error e, n, []⟩) (f : r.Answer → Program κ β) :
    (send r >>= f).perform.run m = ⟨.error e, n, []⟩ := by
  rw [perform_bind, perform_send, Action.run_bind, h]

/-- Where something is wrong with one of the fields, the program ends with the first of these faults
and has done nothing but move the cursor. -/
def Faults (fields : List Field) (p : Program κ α) : Prop :=
  ∀ (m : Machine κ) (c : Cursor) (e : Fault), Field.firstFlaw? fields c = some e →
    ∃ d, p.perform.run (m.movedTo c) = ⟨.error e, m.movedTo d, []⟩

variable {fields : List Field}

theorem faults_nil (p : Program κ α) : p.Faults [] := by
  intro m c e h
  cases h

/-- Reading a field, whatever its width is. -/
theorem faults_fetch_bind (field : Field) (hfield : field ≠ .condition) {r : Request κ}
    {take? : List UInt8 → Option (r.Answer × List UInt8)} {decode : List UInt8 → r.Answer}
    (hr : r.Fetches take? field.width decode) {f : r.Answer → Program κ β}
    (hf : ∀ a, (f a).Faults fields) : (send r >>= f).Faults (field :: fields) := by
  intro m c e h
  rw [Field.firstFlaw?] at h
  by_cases hlt : c.remaining < field.width
  · have hnone : take? c.rest = none := hr.none_of_lt c.rest (by rwa [Cursor.length_rest])
    rw [Field.flaw?_of_lt hlt] at h
    cases h
    exact ⟨c, run_send_bind_of_error (hr.run_of_none hnone m) f⟩
  · have hle : field.width ≤ c.rest.length := by
      rw [Cursor.length_rest]
      exact Nat.not_lt.mp hlt
    obtain ⟨a, ha⟩ := Cursor.exists_take? hr.toTakes hle
    rw [Field.flaw?_of_ne hfield hlt, Option.none_or] at h
    obtain ⟨d, hd⟩ := hf a m _ e h
    exact ⟨d, (Command.run_fetch_bind hr ha f).trans hd⟩

theorem faults_readU8_bind {f : UInt8 → Program κ β} (hf : ∀ b, (f b).Faults fields) :
    (send .readU8 >>= f).Faults (.byte :: fields) :=
  faults_fetch_bind .byte nofun Request.fetches_readU8 hf

theorem faults_readU16_bind {f : UInt16 → Program κ β} (hf : ∀ v, (f v).Faults fields) :
    (send .readU16 >>= f).Faults (.half :: fields) :=
  faults_fetch_bind .half nofun Request.fetches_readU16 hf

theorem faults_readU32_bind {f : UInt32 → Program κ β} (hf : ∀ v, (f v).Faults fields) :
    (send .readU32 >>= f).Faults (.word :: fields) :=
  faults_fetch_bind .word nofun Request.fetches_readU32 hf

/-- An address that is read completely may lead nowhere, but that is not a flaw of its field. -/
theorem faults_readTarget_bind (f : Cursor → Program κ β) :
    (send .readTarget >>= f).Faults [.word] := by
  intro m c e h
  have hflaw : Field.word.flaw? c = some e := by
    rwa [Field.firstFlaw?, Field.firstFlaw?, Option.or_none] at h
  by_cases hlt : c.remaining < Field.word.width
  · have hread : c.readU32 = .error (c.truncation 4) := by
      rw [← Cursor.length_rest] at hlt
      exact Cursor.readAs_of_none takes_word (takes_word.none_of_lt c.rest hlt)
    have hrun : (Request.readTarget : Request κ).perform.run (m.movedTo c) =
        ⟨.error (c.truncation 4), m.movedTo c, []⟩ := by
      simp only [Request.perform, Action.readTarget, Machine.activity_movedTo, hread]
    rw [Field.flaw?_of_lt hlt] at hflaw
    cases hflaw
    exact ⟨c, run_send_bind_of_error hrun f⟩
  · have hnone : Field.word.flaw? c = none := Field.flaw?_of_ne (by simp) hlt
    rw [hnone] at hflaw
    cases hflaw

theorem faults_readCondition_bind {f : Condition → Program κ β} (hf : ∀ b, (f b).Faults fields) :
    (Command.readCondition >>= f).Faults (.condition :: fields) := by
  intro m c e h
  rw [Field.firstFlaw?] at h
  rcases hrest : c.rest with _ | ⟨code, back⟩
  · have hlt : c.remaining < Field.condition.width := by
      rw [← Cursor.length_rest, hrest]
      exact Nat.one_pos
    have hread : (Request.readU8 : Request κ).perform.run (m.movedTo c) =
        ⟨.error (c.truncation 1), m.movedTo c, []⟩ :=
      Request.fetches_readU8.run_of_none (by rw [hrest, takeByte?]) m
    rw [Field.flaw?_of_lt hlt] at h
    cases h
    refine ⟨c, ?_⟩
    rw [Command.readCondition, bind_assoc]
    refine (run_send_bind (r := .look) rfl _).trans ?_
    rw [bind_assoc]
    exact run_send_bind_of_error hread _
  · rw [Field.flaw?_condition hrest] at h
    by_cases hcode : 5 < code.toNat
    · rw [if_pos hcode] at h
      cases h
      have hof : ∃ unknown, Condition.ofByte code = .error unknown := by
        cases hof : Condition.ofByte code with
        | error unknown => exact ⟨unknown, rfl⟩
        | ok condition => exact absurd hcode (Condition.exists_ofByte_iff.mp ⟨condition, hof⟩)
      obtain ⟨unknown, hof⟩ := hof
      refine ⟨c.advance 1, ?_⟩
      rw [Command.readCondition, bind_assoc]
      refine (run_send_bind (r := .look) rfl _).trans ?_
      rw [bind_assoc]
      refine (Command.run_readU8_bind hrest _).trans ?_
      rw [hof]
      rfl
    · rw [if_neg hcode, Option.none_or] at h
      obtain ⟨condition, hof⟩ := Condition.exists_ofByte_iff.mpr hcode
      rw [Condition.ofByte_eq_ok_iff.mp hof] at hrest
      obtain ⟨d, hd⟩ := hf condition m _ e h
      exact ⟨d, (Command.run_readCondition_bind hrest f).trans hd⟩

end Program

namespace Command

open Program

/-- **Each core command goes through the fields of its opcode.** -/
theorem faults_core (op : Opcode) : (core op : Program κ Verdict).Faults op.fields := by
  cases op with
  | nop | wait | stop | ret | lockInput | releaseInput => exact faults_nil _
  | call | goto => exact faults_readTarget_bind _
  | gotoIf | callIf => exact faults_readCondition_bind fun condition ↦ faults_readTarget_bind _
  | loadBank | compareBank | addBank =>
    exact faults_readU8_bind fun bank ↦ faults_readU32_bind fun value ↦ faults_nil _
  | copyBank =>
    exact faults_readU8_bind fun destination ↦ faults_readU8_bind fun source ↦ faults_nil _
  | face => exact faults_readU8_bind fun direction ↦ faults_nil _
  | setTemp => exact faults_readU16_bind fun id ↦ faults_readU16_bind fun value ↦ faults_nil _
  | loadTemp => exact faults_readU8_bind fun bank ↦ faults_readU16_bind fun id ↦ faults_nil _
  | storeTemp => exact faults_readU16_bind fun id ↦ faults_readU8_bind fun bank ↦ faults_nil _

end Command

/-! ## Dispatch units in front of a defect -/

section table

variable [CommandSet κ] {byte : UInt8}

theorem CommandTable.lookup_core_of_lt (h : byte.toNat < 18) :
    (core : CommandTable κ).lookup byte =
      .ok (CommandSet.core (Opcode.all.get ⟨byte.toNat, h⟩)) := by
  have hin : byte.toNat < Opcode.all.length := h
  rw [lookup, core, List.getElem?_map, List.getElem?_eq_getElem hin]
  rfl

theorem CommandTable.lookup_core_of_le (h : ¬byte.toNat < 18) :
    (core : CommandTable κ).lookup byte = .error (.opcodeOutOfRange byte 18) := by
  have hout : (core : CommandTable κ).entries.length ≤ byte.toNat := Nat.not_lt.mp h
  rw [lookup, List.getElem?_eq_none hout]
  rfl

end table

theorem Opcode.ofByte_of_lt {byte : UInt8} (h : byte.toNat < 18) :
    ofByte byte = .ok (all.get ⟨byte.toNat, h⟩) := by
  have hin : byte.toNat < all.length := h
  rw [ofByte, List.getElem?_eq_getElem hin]
  rfl

/-- **Without a defect an instruction stands in front of the cursor.** -/
theorem Cursor.exists_instruction {c : Cursor} (hoffset : c.offset < c.script.length)
    (h : c.defect? = none) : ∃ i back, c.rest = Instruction.encode i ++ back := by
  rw [defect?] at h
  rcases hrest : c.rest with _ | ⟨byte, back⟩
  · have hend : c.script.length ≤ c.offset := of_decide_eq_true (atEnd_iff.mpr hrest)
    omega
  · simp only [hrest] at h
    split at h
    case isTrue hbyte =>
      obtain ⟨i, others, hdecode⟩ := Instruction.exists_decodeOperands? h
      rw [rest_advance_of_eq_cons hrest] at hdecode
      obtain ⟨hopcode, hoperands⟩ := eq_of_decodeOperands? hdecode
      refine ⟨i, others, ?_⟩
      rw [Opcode.ofByte_eq_ok_iff.mp (Opcode.ofByte_of_lt hbyte), hoperands, encode, hopcode,
        List.cons_append]
    case isFalse => cases h

namespace Action

open Machine

variable [CommandSet κ] [Handlers κ] [CoreHandlers κ] {m : Machine κ} {c : Cursor}

/-- Where there is a defect, a dispatch unit ends with it and has at most moved the cursor. -/
theorem dispatch_of_defect {e : Fault} (htable : m.table = .core) (h : c.defect? = some e) :
    (dispatch.run (m.movedTo c)).result = .error e ∧
      ∃ d, (dispatch.run (m.movedTo c)).machine = m.movedTo d := by
  rw [Cursor.defect?] at h
  rcases hrest : c.rest with _ | ⟨byte, back⟩
  · rw [hrest] at h
    cases h
  · simp only [hrest] at h
    split at h
    case isTrue hbyte =>
      have hlookup := CommandTable.lookup_core_of_lt (κ := κ) hbyte
      rw [← htable] at hlookup
      obtain ⟨d, hd⟩ := Command.faults_core _ m (c.advance 1) e h
      rw [← CoreHandlers.handle_core] at hd
      rw [run_dispatch_of_command hrest hlookup, run_heeding_of_error (by rw [hd]), hd]
      exact ⟨rfl, d, rfl⟩
    case isFalse hbyte =>
      cases h
      have hlookup := CommandTable.lookup_core_of_le (κ := κ) hbyte
      rw [← htable] at hlookup
      rw [run_dispatch_of_error hrest hlookup]
      exact ⟨rfl, c.advance 1, rfl⟩

end Action

end EventScript
