import Mathlib.Data.List.Induction
import EventScript.Command
import EventScript.Proofs.DerivedTables

/-!
# What the edits of a table come to

A command table is built from an empty one or from the entries of another one by giving opcodes a
command and taking commands away, in any order and as often as one likes. This file says what comes
out without going through the changes one by one: the table reaches as far as the greatest opcode
that was ever given a command, and each opcode has the command of the last change that was about it.

## Reach and contents

The two follow different rules. A change that takes a command away does not make the table longer,
beyond its end it does nothing at all; and a change that gives a command makes the table longer even
if a later one takes the command away again. A table is therefore looked at as a length together
with a partial function from numbers to commands, and each change is described on either of them
(`length_edit`, `commandAt?_edit`). Two tables of one name that agree in both are equal.
-/

namespace EventScript

variable {κ : Type}

/-! ## Changes -/

namespace TableEdit

/-- The command that the opcode has after the change. -/
def command? : TableEdit κ → Option κ
  | register _ command | set _ command => some command
  | unregister _ => none

/-- The opcode to which the change gives a command. -/
def registered? : TableEdit κ → Option UInt8
  | register opcode _ => some opcode
  | set opcode _ => some opcode.toByte
  | unregister _ => none

/-- The number of entries that a table has at least after the change. -/
def reach (change : TableEdit κ) : Nat :=
  match change.registered? with
  | some opcode => opcode.toNat + 1
  | none => 0

theorem reach_le (change : TableEdit κ) : change.reach ≤ 256 := by
  rw [reach]
  split
  case h_1 opcode _ => exact opcode.toNat_lt
  case h_2 => exact Nat.zero_le _

end TableEdit

/-- The opcodes ever given a command, as numbers. -/
def registeredOpcodes (changes : List (TableEdit κ)) : List Nat :=
  (changes.filterMap TableEdit.registered?).map UInt8.toNat

/-- The last of the changes that is about the opcode. -/
def lastEdit? (changes : List (TableEdit κ)) (opcode : UInt8) : Option (TableEdit κ) :=
  changes.reverse.find? fun change ↦ change.opcode == opcode

theorem lastEdit?_append (changes : List (TableEdit κ)) (change : TableEdit κ) (opcode : UInt8) :
    lastEdit? (changes ++ [change]) opcode =
      if change.opcode = opcode then some change else lastEdit? changes opcode := by
  rw [lastEdit?, List.reverse_append, List.reverse_singleton, List.singleton_append,
    List.find?_cons]
  by_cases hopcode : change.opcode = opcode
  · rw [if_pos hopcode, hopcode, beq_self_eq_true]
  · rw [if_neg hopcode, beq_false_of_ne hopcode, lastEdit?]

namespace CommandTable

/-! ## Tables as functions -/

/-- The command of the entry with that number. -/
def commandAt? (t : CommandTable κ) (i : Nat) : Option κ := t.entries[i]?.join

theorem ext_commandAt? {t t' : CommandTable κ} (hname : t.name = t'.name)
    (hlength : t.length = t'.length) (hcommand : ∀ i, t.commandAt? i = t'.commandAt? i) :
    t = t' := by
  have hentries : t.entries = t'.entries := by
    refine List.ext_getElem hlength fun i hi hi' ↦ ?_
    have hentry := hcommand i
    rwa [commandAt?, commandAt?, List.getElem?_eq_getElem hi,
      List.getElem?_eq_getElem hi'] at hentry
  cases t
  cases t'
  cases hname
  cases hentries
  rfl

/-- **Looking up an opcode** is finding out whether it is in range and then whether its entry has a
command. -/
theorem lookup_eq (t : CommandTable κ) (opcode : UInt8) :
    t.lookup opcode =
      if t.length ≤ opcode.toNat then .error (.opcodeOutOfRange opcode t.length)
      else match t.commandAt? opcode.toNat with
        | some command => .ok command
        | none => .error (.unassignedOpcode opcode) := by
  rw [lookup, commandAt?]
  by_cases hlength : t.length ≤ opcode.toNat
  · rw [if_pos hlength, List.getElem?_eq_none hlength]
  · obtain ⟨entry, hentry⟩ : ∃ entry, t.entries[opcode.toNat]? = some entry :=
      ⟨_, List.getElem?_eq_getElem (Nat.not_le.mp hlength)⟩
    rw [if_neg hlength, hentry]
    cases entry <;> rfl

theorem toOption_lookup (t : CommandTable κ) (opcode : UInt8) :
    (t.lookup opcode).toOption = t.commandAt? opcode.toNat := by
  rw [lookup, commandAt?]
  rcases t.entries[opcode.toNat]? with _ | _ | command <;> rfl

/-! ## One change -/

section edit

variable (t : CommandTable κ) (change : TableEdit κ)

theorem name_edit : (t.edit change).name = t.name := by
  cases change <;> rfl

theorem length_edit : (t.edit change).length = max t.length change.reach := by
  cases change with
  | register opcode command => exact length_register t opcode command
  | set opcode command => exact length_register t opcode.toByte command
  | unregister opcode => exact (length_unregister t opcode).trans (Nat.max_zero _).symm

theorem commandAt?_register (opcode : UInt8) (command : κ) (i : Nat) :
    (t.register opcode command).commandAt? i =
      if opcode.toNat = i then some command else t.commandAt? i := by
  rw [commandAt?, getElem?_register]
  by_cases hopcode : opcode.toNat = i
  · rw [if_pos hopcode, if_pos hopcode.symm]
    rfl
  · rw [if_neg hopcode, if_neg (Ne.symm hopcode), commandAt?]
    by_cases hlength : i < t.length
    · rw [if_pos hlength]
    · -- Beyond the old end there is a gap or nothing, and neither has a command.
      rw [if_neg hlength, List.getElem?_eq_none (Nat.not_lt.mp hlength)]
      split <;> rfl

theorem commandAt?_edit (i : Nat) :
    (t.edit change).commandAt? i =
      if change.opcode.toNat = i then change.command? else t.commandAt? i := by
  cases change with
  | register opcode command => exact commandAt?_register t opcode command i
  | set opcode command => exact commandAt?_register t opcode.toByte command i
  | unregister opcode =>
    rw [edit, commandAt?, getElem?_unregister]
    by_cases hopcode : opcode.toNat = i
    · rw [if_pos hopcode, TableEdit.opcode, if_pos hopcode]
      cases t.entries[i]? <;> rfl
    · rw [if_neg hopcode, TableEdit.opcode, if_neg hopcode, commandAt?]

/-- **Changes of different opcodes can be made in either order.** -/
theorem edit_edit_comm {change change' : TableEdit κ} (h : change.opcode ≠ change'.opcode) :
    (t.edit change).edit change' = (t.edit change').edit change := by
  have hopcode : change.opcode.toNat ≠ change'.opcode.toNat := fun heq ↦ h (UInt8.toNat_inj.mp heq)
  refine ext_commandAt? ?_ ?_ fun i ↦ ?_
  · simp only [name_edit]
  · simp only [length_edit]
    omega
  · simp only [commandAt?_edit]
    by_cases hchange : change.opcode.toNat = i
    · rw [if_pos hchange, if_pos hchange, if_neg (hchange ▸ hopcode.symm)]
    · rw [if_neg hchange, if_neg hchange]

end edit

/-! ## All changes -/

theorem edits_append (t : CommandTable κ) (changes others : List (TableEdit κ)) :
    t.edits (changes ++ others) = (t.edits changes).edits others :=
  List.foldl_append

theorem length_edits_le_iff {t : CommandTable κ} {changes : List (TableEdit κ)} {n : Nat} :
    (t.edits changes).length ≤ n ↔
      t.length ≤ n ∧ ∀ opcode ∈ registeredOpcodes changes, 1 + opcode ≤ n := by
  induction changes generalizing t with
  | nil => simp [edits, registeredOpcodes]
  | cons change others ih =>
    have hedits : t.edits (change :: others) = (t.edit change).edits others := rfl
    rw [hedits, ih, length_edit, Nat.max_le, and_assoc, registeredOpcodes, registeredOpcodes,
      TableEdit.reach, List.filterMap_cons]
    cases change.registered? with
    | none => simp
    | some opcode => rw [List.map_cons, List.forall_mem_cons, Nat.add_comm 1]

/-- **How far a table reaches**: as far as it did at first, or up to the greatest opcode that was
given a command. -/
theorem length_edits (t : CommandTable κ) (changes : List (TableEdit κ)) :
    (t.edits changes).length = match (registeredOpcodes changes).max? with
      | none => t.length
      | some greatest => max t.length (1 + greatest) := by
  refine Nat.le_antisymm_iff.mpr ⟨length_edits_le_iff.mpr ?_, ?_⟩
  · split
    case h_1 hnone =>
      rw [List.max?_eq_none_iff] at hnone
      rw [hnone]
      exact ⟨Nat.le_refl _, nofun⟩
    case h_2 greatest hgreatest =>
      refine ⟨Nat.le_max_left _ _, fun opcode hopcode ↦ ?_⟩
      have hle : opcode ≤ greatest :=
        (List.max?_eq_some_iff.mp hgreatest).2 opcode hopcode
      exact Nat.le_trans (Nat.add_le_add_left hle 1) (Nat.le_max_right _ _)
  · obtain ⟨hlength, hopcodes⟩ := length_edits_le_iff.mp (Nat.le_refl (t.edits changes).length)
    split
    case h_1 => exact hlength
    case h_2 greatest hgreatest =>
      exact Nat.max_le.mpr ⟨hlength, hopcodes _ (List.max?_eq_some_iff.mp hgreatest).1⟩

/-- **Each opcode has the command of the last change that is about it.** -/
theorem commandAt?_edits (t : CommandTable κ) (changes : List (TableEdit κ)) (opcode : UInt8) :
    (t.edits changes).commandAt? opcode.toNat = match lastEdit? changes opcode with
      | some change => change.command?
      | none => t.commandAt? opcode.toNat := by
  induction changes using List.reverseRecOn with
  | nil => rfl
  | append_singleton changes change ih =>
    have hedits : t.edits (changes ++ [change]) = (t.edits changes).edit change :=
      edits_append t changes [change]
    rw [hedits, commandAt?_edit, lastEdit?_append, ih]
    by_cases hopcode : change.opcode = opcode
    · rw [if_pos (congrArg _ hopcode), if_pos hopcode]
    · rw [if_neg fun h ↦ hopcode (UInt8.toNat_inj.mp h), if_neg hopcode]

/-! ## Tables that can come about -/

/-- A table that can come about: it starts empty or with the entries of another one, and then
changes are made. -/
inductive Built : CommandTable κ → Prop where
  /-- A table without entries. -/
  | empty (name : String) : Built (empty name)
  /-- A table with the entries of another one. -/
  | derive {base : CommandTable κ} (name : String) : Built base → Built (derive name base)
  /-- A change. -/
  | edit {t : CommandTable κ} (change : TableEdit κ) : Built t → Built (t.edit change)

theorem Built.edits {t : CommandTable κ} (h : Built t) (changes : List (TableEdit κ)) :
    Built (t.edits changes) := by
  induction changes generalizing t with
  | nil => exact h
  | cons change others ih => exact ih (h.edit change)

/-- An opcode is a byte, so a table has at most 256 entries. -/
theorem Built.length_le {t : CommandTable κ} (h : Built t) : t.length ≤ 256 := by
  induction h with
  | empty name => exact Nat.zero_le _
  | derive name _ ih => exact ih
  | edit change _ ih =>
    rw [length_edit]
    exact Nat.max_le.mpr ⟨ih, change.reach_le⟩

/-- A table without gaps is built by giving one opcode after the other its command. -/
theorem built_of_commands (name : String) {commands : List κ} (h : commands.length ≤ 256) :
    Built ⟨name, commands.map some⟩ := by
  induction commands using List.reverseRecOn with
  | nil => exact .empty name
  | append_singleton commands command ih =>
    rw [List.length_append, List.length_singleton] at h
    have hopcode : (UInt8.ofNat commands.length).toNat = commands.length := by
      rw [UInt8.toNat_ofNat', Nat.mod_eq_of_lt (by omega)]
    have hnext : (⟨name, (commands ++ [command]).map some⟩ : CommandTable κ) =
        CommandTable.edit ⟨name, commands.map some⟩
          (.register (UInt8.ofNat commands.length) command) := by
      simp [CommandTable.edit, register, CommandTable.length, hopcode]
    rw [hnext]
    exact (ih (by omega)).edit _

theorem built_core [CommandSet κ] : Built (core : CommandTable κ) := by
  have hcore : (core : CommandTable κ) =
      ⟨"core", (Opcode.all.map CommandSet.core).map some⟩ := by
    rw [List.map_map]
    rfl
  rw [hcore]
  exact built_of_commands "core" (by rw [List.length_map]; decide)

theorem lastOpcode?_of_length_le {t : CommandTable κ} (h : t.length ≤ 256) :
    (t.lastOpcode? = none ↔ t.length = 0) ∧
      ∀ last, t.lastOpcode? = some last → last.toNat + 1 = t.length := by
  rw [lastOpcode?]
  cases hlength : t.length with
  | zero => exact ⟨⟨fun _ ↦ rfl, fun _ ↦ rfl⟩, nofun⟩
  | succ n =>
    refine ⟨⟨nofun, nofun⟩, ?_⟩
    rintro _ ⟨⟩
    rw [UInt8.toNat_ofNat', Nat.mod_eq_of_lt (by omega)]

end CommandTable

open CommandTable

/-- **A table is what the last changes make it.** Of any table that can come about, changed in any
way: its length is given by the greatest opcode that was ever given a command, and no byte is too
small for its last opcode; an opcode is out of range exactly when it lies beyond that length, and
else has the command of the last change that is about it, or of the table at first if there is none;
and the order of two successive changes that are about different opcodes does not matter. -/
theorem table_is_last_edits {base : CommandTable κ} (hbase : base.Built) (name : String)
    (changes : List (TableEdit κ)) :
    let built := (derive name base).edits changes
    (built.length = match (registeredOpcodes changes).max? with
      | none => base.length
      | some greatest => max base.length (1 + greatest)) ∧
    built.length ≤ 256 ∧
    (built.lastOpcode? = none ↔ built.length = 0) ∧
    (∀ last, built.lastOpcode? = some last → last.toNat + 1 = built.length) ∧
    (∀ opcode : UInt8, built.lookup opcode = .error (.opcodeOutOfRange opcode built.length) ↔
      built.length ≤ opcode.toNat) ∧
    (∀ opcode : UInt8, opcode.toNat < built.length → built.lookup opcode =
      match (match lastEdit? changes opcode with
        | some change => change.command?
        | none => (base.lookup opcode).toOption) with
      | some command => .ok command
      | none => .error (.unassignedOpcode opcode)) ∧
    ∀ (before after : List (TableEdit κ)) (change change' : TableEdit κ),
      changes = before ++ change :: change' :: after → change.opcode ≠ change'.opcode →
        (derive name base).edits (before ++ change' :: change :: after) = built := by
  intro built
  have hlength : built.length ≤ 256 := ((hbase.derive name).edits changes).length_le
  obtain ⟨hnone, hsome⟩ := lastOpcode?_of_length_le hlength
  refine ⟨length_edits _ changes, hlength, hnone, hsome, fun opcode ↦ ?_,
    fun opcode hopcode ↦ ?_, ?_⟩
  · rw [lookup_eq]
    split
    case isTrue h => exact ⟨fun _ ↦ h, fun _ ↦ rfl⟩
    case isFalse h =>
      refine ⟨fun hlookup ↦ ?_, fun hbeyond ↦ absurd hbeyond h⟩
      split at hlookup <;> cases hlookup
  · rw [lookup_eq, if_neg (Nat.not_le.mpr hopcode), commandAt?_edits, toOption_lookup]
    rfl
  · rintro before after change change' rfl hne
    have hedits (first second : TableEdit κ) :
        (derive name base).edits (before ++ first :: second :: after) =
          ((((derive name base).edits before).edit first).edit second).edits after :=
      edits_append _ before (first :: second :: after)
    rw [hedits, edit_edit_comm _ hne.symm, ← hedits]

/-- The core table without the command that waits and with one far behind the core opcodes, which is
taken away again; what was never there is taken away as well. -/
def sparseEdits : List (TableEdit Opcode) :=
  [.register 0x14 .nop, .set .wait .nop, .unregister 0x14, .unregister Opcode.wait.toByte,
    .unregister 0xff]

/-- The table keeps the length that the opcode taken away gave it, and the one beyond its end does
not make it longer. -/
theorem table_is_last_edits_sparse :
    let built := (derive "sparse" (core : CommandTable Opcode)).edits sparseEdits
    (core : CommandTable Opcode).Built ∧ built.length = 21 ∧
      built.lookup 0xff = .error (.opcodeOutOfRange 0xff 21) ∧
      built.lookup 0x0b = .error (.unassignedOpcode 0x0b) ∧ built.lookup 0x01 = .ok .stop := by
  intro built
  obtain ⟨hlength, -, -, -, hbeyond, hwithin, -⟩ :=
    table_is_last_edits (built_core (κ := Opcode)) "sparse" sparseEdits
  have hlength : built.length = 21 := hlength
  refine ⟨built_core, hlength, ?_, ?_, ?_⟩
  · have hlookup := (hbeyond 0xff).mpr (by change built.length ≤ 255; omega)
    rwa [show _ = 21 from hlength] at hlookup
  · exact hwithin 0x0b (by change 11 < built.length; omega)
  · exact hwithin 0x01 (by change 1 < built.length; omega)

end EventScript
