import Mathlib.Data.List.Induction
import EventScript.Assembler

/-!
# Back-patching

An address that is not known when its instruction is emitted is emitted as a placeholder, and the
four bytes are overwritten when it is. This file shows that it makes no difference when and how
often that is done: the bytes are those of emitting every instruction at once with the address it
was given last.

## Positions

Whoever emits an instruction with an address remembers where the address stands, four bytes before
the end of what has been emitted. A `Listing` keeps these marks beside the assembler. That they stay
right is the invariant (`Listing.Lays`): no patch changes the opcode of an instruction, and so none
changes the size of anything, no matter which addresses stand in the program by then.
-/

namespace EventScript

open Instruction

/-! ## Instructions with another address -/

namespace Instruction

@[simp] theorem opcode_retarget (i : Instruction) (target : UInt32) :
    (i.retarget target).opcode = i.opcode := by
  cases i <;> rfl

theorem retarget_retarget (i : Instruction) (target other : UInt32) :
    (i.retarget target).retarget other = i.retarget other := by
  cases i <;> rfl

theorem target?_retarget (i : Instruction) (target : UInt32) :
    (i.retarget target).target? = i.target?.map fun _ ↦ target := by
  cases i <;> rfl

/-- The instruction with another address, if one is given. -/
def readdressed (i : Instruction) : (address? : Option UInt32) → Instruction
  | some address => i.retarget address
  | none => i

theorem retarget_readdressed (i : Instruction) (address? : Option UInt32) (target : UInt32) :
    (i.readdressed address?).retarget target = i.retarget target := by
  cases address? with
  | none => rfl
  | some address => exact i.retarget_retarget address target

theorem isSome_target?_readdressed (i : Instruction) (address? : Option UInt32) :
    (i.readdressed address?).target?.isSome = i.target?.isSome := by
  cases address? with
  | none => rfl
  | some address => rw [readdressed, target?_retarget, Option.isSome_map]

/-- The address is the last operand, and nothing in front of it depends on it. -/
theorem exists_encode_retarget {i : Instruction} {address : UInt32}
    (h : i.target? = some address) :
    ∃ front, i.encode = front ++ Bytes.ofUInt32 address ∧
      ∀ target, (i.retarget target).encode = front ++ Bytes.ofUInt32 target := by
  cases i with
  | call _ | goto _ =>
    cases h
    exact ⟨[_], rfl, fun _ ↦ rfl⟩
  | gotoIf _ _ | callIf _ _ =>
    cases h
    exact ⟨[_, _], rfl, fun _ ↦ rfl⟩
  | _ => cases h

theorem length_flatMap_encode_congr {program other : List Instruction}
    (h : program.map opcode = other.map opcode) :
    (program.flatMap encode).length = (other.flatMap encode).length := by
  induction program generalizing other with
  | nil => rw [List.map_eq_nil_iff.mp h.symm]
  | cons i rest ih =>
    obtain ⟨j, others, rfl, hopcode, hothers⟩ := List.map_eq_cons_iff.mp h.symm
    rw [List.flatMap_cons, List.flatMap_cons, List.length_append, List.length_append,
      length_encode, length_encode, hopcode, ih hothers.symm]

theorem map_opcode_modify (program : List Instruction) (index : Nat) (target : UInt32) :
    (program.modify index (·.retarget target)).map opcode = program.map opcode := by
  refine List.ext_getElem? fun k ↦ ?_
  rw [List.getElem?_map, List.getElem?_map, List.getElem?_modify, Option.map_eq_map,
    Option.map_map]
  refine Option.map_congr fun i _ ↦ ?_
  rw [Function.comp_apply]
  split
  · exact opcode_retarget i target
  · rfl

theorem exists_flatMap_encode {program : List Instruction} {index : Nat} {i : Instruction}
    (hi : program[index]? = some i) (haddress : i.target?.isSome) :
    ∃ front old back, old.length = 4 ∧
      front.length = ((program.take index).flatMap encode).length + i.opcode.size - 4 ∧
      program.flatMap encode = front ++ old ++ back ∧
      ∀ target, (program.modify index (·.retarget target)).flatMap encode =
        front ++ Bytes.ofUInt32 target ++ back := by
  obtain ⟨address, haddress⟩ := Option.isSome_iff_exists.mp haddress
  obtain ⟨head, hencode, hretarget⟩ := exists_encode_retarget haddress
  obtain ⟨hindex, hget⟩ := List.getElem?_eq_some_iff.mp hi
  have hword : (Bytes.ofUInt32 address).length = 4 := Bytes.length_ofNat 4 _
  refine ⟨(program.take index).flatMap encode ++ head, Bytes.ofUInt32 address,
    (program.drop (index + 1)).flatMap encode, hword, ?_, ?_, fun target ↦ ?_⟩
  · rw [← length_encode, hencode, List.length_append, List.length_append, hword]
    omega
  · conv_lhs => rw [← List.take_append_drop index program]
    rw [List.flatMap_append, List.drop_eq_getElem_cons hindex, List.flatMap_cons, hget, hencode]
    simp only [List.append_assoc]
  · rw [List.modify_eq_take_cons_drop hindex, List.flatMap_append, List.flatMap_cons, hget,
      hretarget]
    simp only [List.append_assoc]

end Instruction

/-! ## Patches -/

namespace Assembler

/-- A patch replaces four bytes and leaves alone what stands in front of them and behind them. -/
theorem patch?_append {front old : List UInt8} (hold : old.length = 4) (back : List UInt8)
    (value : UInt32) :
    (⟨front ++ old ++ back⟩ : Assembler).patch? front.length value =
      some ⟨front ++ Bytes.ofUInt32 value ++ back⟩ := by
  have hfits : front.length + 4 ≤ (front ++ old ++ back).length := by
    rw [List.length_append, List.length_append, hold]
    exact Nat.le_add_right _ _
  have htake : (front ++ old ++ back).take front.length = front := by
    rw [List.append_assoc, List.take_left]
  have hdrop : (front ++ old ++ back).drop (front.length + 4) = back := by
    rw [← hold, ← List.length_append, List.drop_left]
  rw [patch?, if_pos hfits]
  dsimp only
  rw [htake, hdrop]

/-- **A patch keeps the offset and all bytes outside its four.** -/
theorem of_patch? {a patched : Assembler} {position : Nat} {value : UInt32}
    (h : a.patch? position value = some patched) :
    patched.offset = a.offset ∧
      ∀ j, j < position ∨ position + 4 ≤ j → patched.bytes[j]? = a.bytes[j]? := by
  rw [patch?] at h
  split at h
  case isFalse => cases h
  case isTrue hfits =>
    cases h
    have hfront : (a.bytes.take position).length = position := List.length_take_of_le (by omega)
    have hword : (Bytes.ofUInt32 value).length = 4 := Bytes.length_ofNat 4 _
    have hmiddle : (a.bytes.take position ++ Bytes.ofUInt32 value).length = position + 4 := by
      rw [List.length_append, hfront, hword]
    refine ⟨?_, ?_⟩
    · rw [offset, offset, List.length_append, hmiddle, List.length_drop]
      omega
    · rintro j (hj | hj)
      · rw [List.append_assoc, List.getElem?_append_left (by omega), List.getElem?_take_of_lt hj]
      · rw [List.getElem?_append_right (by omega), hmiddle, List.getElem?_drop]
        congr 1
        omega

end Assembler

/-! ## Emitting and patching -/

/-- What is done to a program under construction. -/
inductive AssemblyStep where
  /-- An instruction is emitted. -/
  | emit (i : Instruction)
  /-- The address of the instruction that was emitted as the one with the number `index`, counted
  from zero, is overwritten. -/
  | patch (index : Nat) (target : UInt32)

/-- A program under construction, and where the address of each of its instructions stands. -/
structure Listing where
  /-- What has been emitted. -/
  assembler : Assembler := .empty
  /-- One entry for each instruction, which is `none` if the instruction has no address. -/
  marks : List (Option Nat) := []

namespace Listing

/-- Emits an instruction. An address has been emitted with the last four bytes. -/
def emit (l : Listing) (i : Instruction) : Listing :=
  let assembler := l.assembler.instruction i
  ⟨assembler, l.marks ++ [i.target?.map fun _ ↦ assembler.offset - 4]⟩

/-- Overwrites the address of an instruction, which has to have one. -/
def patch? (l : Listing) (index : Nat) (target : UInt32) : Option Listing := do
  let position ← l.marks[index]?.join
  let assembler ← l.assembler.patch? position target
  return { l with assembler := assembler }

theorem patch?_of_mark {l : Listing} {index position : Nat} {target : UInt32} {patched : Assembler}
    (hmark : l.marks[index]? = some (some position))
    (hpatch : l.assembler.patch? position target = some patched) :
    l.patch? index target = some { l with assembler := patched } := by
  simp [patch?, hmark, hpatch]

/-- Does one step. -/
def step? (l : Listing) : AssemblyStep → Option Listing
  | .emit i => some (l.emit i)
  | .patch index target => l.patch? index target

/-- Does steps in order, beginning with nothing. -/
def ofSteps? (steps : List AssemblyStep) : Option Listing := steps.foldlM step? {}

theorem ofSteps?_append (steps : List AssemblyStep) (step : AssemblyStep) :
    ofSteps? (steps ++ [step]) = (ofSteps? steps).bind (·.step? step) := by
  rw [ofSteps?, List.foldlM_append, ofSteps?]
  simp

end Listing

/-- The instructions that are emitted, placeholders included. -/
def emitted (steps : List AssemblyStep) : List Instruction :=
  steps.filterMap fun
    | .emit i => some i
    | .patch _ _ => none

/-- The address with which an instruction is patched last. -/
def lastPatch? (steps : List AssemblyStep) (index : Nat) : Option UInt32 :=
  steps.reverse.findSome? fun
    | .patch other target => if other = index then some target else none
    | .emit _ => none

/-- The program that is meant: each instruction has the address with which it is patched last, or
else the one with which it is emitted. -/
def intended (steps : List AssemblyStep) : List Instruction :=
  (emitted steps).mapIdx fun index i ↦ i.readdressed (lastPatch? steps index)

/-- Only instructions that have been emitted before, with an address, are patched. -/
def WellPlaced (steps : List AssemblyStep) : Prop :=
  ∀ before index target after, steps = before ++ .patch index target :: after →
    ∃ i, (emitted before)[index]? = some i ∧ i.target?.isSome

namespace WellPlaced

variable {steps : List AssemblyStep}

theorem of_append {more : List AssemblyStep} (h : WellPlaced (steps ++ more)) :
    WellPlaced steps := by
  rintro before index target after rfl
  exact h before index target (after ++ more) (by simp)

theorem nil : WellPlaced [] := fun before _ _ _ h ↦ by
  cases before <;> cases h

theorem concat (h : WellPlaced steps) {step : AssemblyStep}
    (hstep : ∀ index target, step = .patch index target →
      ∃ i, (emitted steps)[index]? = some i ∧ i.target?.isSome) :
    WellPlaced (steps ++ [step]) := by
  intro before index target after heq
  rcases after.eq_nil_or_concat with rfl | ⟨rest, last, rfl⟩
  · obtain ⟨rfl, hlast⟩ := List.append_inj' heq rfl
    exact hstep index target (List.head_eq_of_cons_eq hlast)
  · rw [List.concat_eq_append, ← List.cons_append, ← List.append_assoc] at heq
    exact h before index target rest (List.append_inj' heq rfl).1

theorem emit (h : WellPlaced steps) (i : Instruction) : WellPlaced (steps ++ [.emit i]) :=
  h.concat nofun

theorem patch (h : WellPlaced steps) {index : Nat} {i : Instruction}
    (hi : (emitted steps)[index]? = some i) (haddress : i.target?.isSome) (target : UInt32) :
    WellPlaced (steps ++ [.patch index target]) := by
  refine h.concat fun _ _ heq ↦ ?_
  cases heq
  exact ⟨i, hi, haddress⟩

theorem last {index : Nat} {target : UInt32} (h : WellPlaced (steps ++ [.patch index target])) :
    ∃ i, (emitted steps)[index]? = some i ∧ i.target?.isSome :=
  h steps index target [] rfl

end WellPlaced

section steps

variable (steps : List AssemblyStep) (i : Instruction) (index : Nat) (target : UInt32)

theorem emitted_append_emit : emitted (steps ++ [.emit i]) = emitted steps ++ [i] :=
  List.filterMap_append

theorem emitted_append_patch : emitted (steps ++ [.patch index target]) = emitted steps := by
  rw [emitted, List.filterMap_append]
  exact List.append_nil _

theorem lastPatch?_append_emit :
    lastPatch? (steps ++ [.emit i]) index = lastPatch? steps index := by
  rw [lastPatch?, List.reverse_append]
  rfl

theorem lastPatch?_append_patch (other : Nat) :
    lastPatch? (steps ++ [.patch other target]) index =
      if other = index then some target else lastPatch? steps index := by
  rw [lastPatch?, List.reverse_append, List.reverse_singleton, List.singleton_append,
    List.findSome?_cons]
  by_cases hother : other = index
  · simp only [if_pos hother]
  · simp only [if_neg hother]
    rfl

theorem getElem?_intended :
    (intended steps)[index]? =
      (emitted steps)[index]?.map (·.readdressed (lastPatch? steps index)) :=
  List.getElem?_mapIdx

variable {steps index}

theorem lastPatch?_eq_none (h : WellPlaced steps) (hindex : (emitted steps).length ≤ index) :
    lastPatch? steps index = none := by
  induction steps using List.reverseRecOn with
  | nil => rfl
  | append_singleton steps step ih =>
    cases step with
    | emit i =>
      rw [emitted_append_emit, List.length_append] at hindex
      rw [lastPatch?_append_emit]
      exact ih h.of_append (by omega)
    | patch other target =>
      rw [emitted_append_patch] at hindex
      obtain ⟨i, hi, -⟩ := h.last
      have hother : other < (emitted steps).length := (List.getElem?_eq_some_iff.mp hi).1
      rw [lastPatch?_append_patch, if_neg (by omega)]
      exact ih h.of_append hindex

/-! What one more step makes of the program that is meant. -/

theorem intended_append_emit (h : WellPlaced steps) :
    intended (steps ++ [.emit i]) = intended steps ++ [i] := by
  simp only [intended, emitted_append_emit, lastPatch?_append_emit]
  rw [List.mapIdx_concat, lastPatch?_eq_none h (Nat.le_refl _)]
  rfl

theorem intended_append_patch :
    intended (steps ++ [.patch index target]) =
      (intended steps).modify index (·.retarget target) := by
  refine List.ext_getElem? fun k ↦ ?_
  rw [List.getElem?_modify, getElem?_intended, getElem?_intended, emitted_append_patch,
    lastPatch?_append_patch, Option.map_eq_map, Option.map_map]
  refine Option.map_congr fun i _ ↦ ?_
  rw [Function.comp_apply]
  by_cases hk : index = k
  · rw [if_pos hk, if_pos hk, retarget_readdressed]
    rfl
  · rw [if_neg hk, if_neg hk]

/-- An instruction that may be patched still has an address after all the patches before. -/
theorem exists_intended (h : WellPlaced (steps ++ [.patch index target])) :
    ∃ i, (intended steps)[index]? = some i ∧ i.target?.isSome := by
  obtain ⟨i, hi, haddress⟩ := h.last
  refine ⟨_, ?_, (isSome_target?_readdressed i (lastPatch? steps index)).trans haddress⟩
  rw [getElem?_intended, hi, Option.map_some]

end steps

/-! ## The invariant -/

/-- The listing holds the program, and each mark is where the address of its instruction stands. -/
structure Listing.Lays (l : Listing) (program : List Instruction) : Prop where
  /-- The program has been emitted. -/
  bytes : l.assembler.bytes = program.flatMap encode
  /-- An address stands at the end of its instruction. -/
  marks : ∀ k : Nat, l.marks[k]? = program[k]?.map fun (i : Instruction) ↦
    i.target?.map fun _ ↦ ((program.take k).flatMap encode).length + i.opcode.size - 4

namespace Listing.Lays

variable {l : Listing} {program : List Instruction}

theorem length_marks (h : l.Lays program) : l.marks.length = program.length := by
  refine Nat.le_antisymm ?_ ?_
  · rw [← List.getElem?_eq_none_iff, h.marks, List.getElem?_eq_none (Nat.le_refl _)]
    rfl
  · have hnone := h.marks l.marks.length
    rw [List.getElem?_eq_none (Nat.le_refl _)] at hnone
    rw [← List.getElem?_eq_none_iff]
    exact Option.map_eq_none_iff.mp hnone.symm

theorem nil : Lays {} [] := ⟨rfl, fun _ ↦ rfl⟩

theorem emit (h : l.Lays program) (i : Instruction) : (l.emit i).Lays (program ++ [i]) := by
  have hbytes : (l.emit i).assembler.bytes = (program ++ [i]).flatMap encode := by
    rw [Listing.emit, Assembler.bytes_instruction, h.bytes, List.flatMap_append,
      List.flatMap_singleton]
  refine ⟨hbytes, fun k ↦ ?_⟩
  have hmarks : (l.emit i).marks =
      l.marks ++ [i.target?.map fun _ ↦ (l.emit i).assembler.offset - 4] := rfl
  rw [hmarks, Assembler.offset, hbytes, List.flatMap_append, List.flatMap_singleton,
    List.length_append, length_encode]
  -- The marks there were, the new one, and beyond them.
  rcases Nat.lt_trichotomy k program.length with hk | rfl | hk
  · rw [List.getElem?_append_left (by rwa [h.length_marks]), List.getElem?_append_left hk, h.marks,
      List.take_append_of_le_length (Nat.le_of_lt hk)]
  · rw [List.take_left, List.getElem?_concat_length, ← h.length_marks, List.getElem?_concat_length]
    rfl
  · rw [List.getElem?_eq_none, List.getElem?_eq_none]
    · rfl
    all_goals
      simp only [List.length_append, List.length_singleton, h.length_marks]
      omega

/-- **Patching an address gives its instruction that address**, and the marks stay right. -/
theorem patch (h : l.Lays program) {index : Nat} {i : Instruction}
    (hi : program[index]? = some i) (haddress : i.target?.isSome) (target : UInt32) :
    ∃ position patched, l.marks[index]? = some (some position) ∧
      l.assembler.patch? position target = some patched ∧
      Lays { l with assembler := patched } (program.modify index (·.retarget target)) := by
  obtain ⟨front, old, back, hold, hfront, hbytes, hpatched⟩ := exists_flatMap_encode hi haddress
  obtain ⟨address, haddress⟩ := Option.isSome_iff_exists.mp haddress
  have hassembler : l.assembler = ⟨front ++ old ++ back⟩ :=
    congrArg Assembler.mk (h.bytes.trans hbytes)
  refine ⟨front.length, ⟨front ++ Bytes.ofUInt32 target ++ back⟩, ?_, ?_,
    (hpatched target).symm, fun k ↦ ?_⟩
  · rw [h.marks, hi, Option.map_some, haddress, Option.map_some, hfront]
  · rw [hassembler, Assembler.patch?_append hold]
  · -- Nothing in front of an instruction changes its size, and so no instruction changes its place.
    have hopcodes : ((program.modify index (·.retarget target)).take k).map opcode =
        (program.take k).map opcode := by
      rw [List.map_take, List.map_take, map_opcode_modify]
    rw [h.marks, length_flatMap_encode_congr hopcodes, List.getElem?_modify, Option.map_eq_map,
      Option.map_map]
    refine Option.map_congr fun j _ ↦ ?_
    rw [Function.comp_apply]
    split
    · rw [opcode_retarget, target?_retarget, Option.map_map]
      rfl
    · rfl

/-- **All steps can be done, and they lay out the program that is meant.** -/
theorem exists_ofSteps? {steps : List AssemblyStep} (h : WellPlaced steps) :
    ∃ l, ofSteps? steps = some l ∧ l.Lays (intended steps) := by
  induction steps using List.reverseRecOn with
  | nil => exact ⟨{}, rfl, nil⟩
  | append_singleton steps step ih =>
    obtain ⟨l, hl, hlays⟩ := ih h.of_append
    rw [ofSteps?_append, hl]
    cases step with
    | emit i =>
      rw [intended_append_emit i h.of_append]
      exact ⟨l.emit i, rfl, hlays.emit i⟩
    | patch index target =>
      obtain ⟨i, hi, haddress⟩ := exists_intended target h
      obtain ⟨position, patched, hmark, hpatch, hlays⟩ := hlays.patch hi haddress target
      rw [intended_append_patch]
      exact ⟨_, patch?_of_mark hmark hpatch, hlays⟩

end Listing.Lays

/-! ## Back-patching is emitting the right addresses -/

/-- **Back-patching equals emitting the right addresses at once**: however the patches are ordered,
repeated and mixed with the emission of other instructions, the bytes in the end are those of the
program in which each address is the one that was patched in last. A patch of an instruction changes
neither the offset nor any byte outside the four at its mark. -/
theorem back_patching_emits_last_addresses {steps : List AssemblyStep} (h : WellPlaced steps) :
    (∃ l, Listing.ofSteps? steps = some l ∧
      l.assembler.bytes = (Assembler.empty.program (intended steps)).bytes) ∧
    ∀ before index target after, steps = before ++ .patch index target :: after →
      ∃ l position patched, Listing.ofSteps? before = some l ∧
        l.marks[index]? = some (some position) ∧
        l.assembler.patch? position target = some patched ∧
        Listing.ofSteps? (before ++ [.patch index target]) = some { l with assembler := patched } ∧
        patched.offset = l.assembler.offset ∧
        ∀ j, j < position ∨ position + 4 ≤ j → patched.bytes[j]? = l.assembler.bytes[j]? := by
  refine ⟨?_, ?_⟩
  · obtain ⟨l, hl, hlays⟩ := Listing.Lays.exists_ofSteps? h
    refine ⟨l, hl, ?_⟩
    rw [Assembler.bytes_program, hlays.bytes]
    rfl
  · rintro before index target after rfl
    rw [List.append_cons] at h
    have hbefore : WellPlaced (before ++ [.patch index target]) := h.of_append
    obtain ⟨l, hl, hlays⟩ := Listing.Lays.exists_ofSteps? hbefore.of_append
    obtain ⟨i, hi, haddress⟩ := exists_intended target hbefore
    obtain ⟨position, patched, hmark, hpatch, -⟩ := hlays.patch hi haddress target
    refine ⟨l, position, patched, hl, hmark, hpatch, ?_, Assembler.of_patch? hpatch⟩
    rw [Listing.ofSteps?_append, hl, Option.bind_some, Listing.step?,
      Listing.patch?_of_mark hmark hpatch]

/-- Two forward references, in a format of five bytes and one of six. The second is patched first,
an instruction is emitted in between, and the first is patched twice. -/
theorem back_patching_emits_last_addresses_twice :
    ∃ l, Listing.ofSteps? [.emit (.goto 0), .emit (.callIf .equal 0), .patch 1 11, .emit .nop,
        .patch 0 5, .patch 0 12, .emit .stop] = some l ∧
      l.assembler.bytes =
        (Assembler.empty.program [.goto 12, .callIf .equal 11, .nop, .stop]).bytes := by
  have h : WellPlaced [.emit (.goto 0), .emit (.callIf .equal 0), .patch 1 11, .emit .nop,
      .patch 0 5, .patch 0 12, .emit .stop] :=
    ((((((WellPlaced.nil.emit _).emit _).patch rfl rfl 11).emit _).patch rfl rfl 5).patch
      rfl rfl 12).emit _
  obtain ⟨l, hl, hbytes⟩ := (back_patching_emits_last_addresses h).1
  exact ⟨l, hl, hbytes⟩

end EventScript
