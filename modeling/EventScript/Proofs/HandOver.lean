import EventScript.Command
import EventScript.Proofs.Dispatch

/-!
# Commands that hand over

A host extends the core table with commands of its own, and the usual thing for such a command to
do is to read its operands and to hand over to a native task. This file says what such a command is,
and gives two tables: the core table extended with commands of this kind, and the same table in
which no command waits. The second has a command for the same opcodes as the first, so the tables
differ only in what the commands do.
-/

namespace EventScript

variable {κ : Type}

/-! ## Reading operands -/

/-- A kind of operand. -/
inductive OperandKind where
  | byte
  | half
  | word
  /-- An address in the script. -/
  | address
  deriving DecidableEq

namespace Action

/-- Reads an operand of the kind and forgets it. -/
def skip : OperandKind → Action κ Unit
  | .byte => do
    let _ ← readU8
    return ()
  | .half => do
    let _ ← readU16
    return ()
  | .word => do
    let _ ← readU32
    return ()
  | .address => do
    let _ ← readTarget
    return ()

/-- Reads operands of the kinds in turn and forgets them. -/
def skipAll : List OperandKind → Action κ Unit
  | [] => return ()
  | operand :: others => do
    skip operand
    skipAll others

end Action

/-- An opcode whose command reads its operands and hands over to a native task that finishes in the
end, and a command that only reads the operands. The task and the verdict may depend on the operands
and on anything else that the command sees. -/
structure HandOff (κ : Type) [CommandSet κ] where
  /-- The opcode. -/
  opcode : UInt8
  /-- The operands. -/
  operands : List OperandKind
  /-- The command that hands over. -/
  command : κ
  /-- The command that only reads. -/
  plain : κ
  /-- The first command reads the operands and hands over. -/
  hands_over : ∀ (m : Machine κ) (c : Cursor), ∃ (pending : Nat) (verdict : Verdict),
    (Handlers.handle command).run (m.movedTo c) =
      (do
        Action.skipAll operands
        Action.runNative ⟨some pending⟩
        return verdict : Action κ Verdict).run (m.movedTo c)
  /-- The second command reads the operands and proceeds. -/
  reads : ∀ (m : Machine κ) (c : Cursor),
    (Handlers.handle plain).run (m.movedTo c) =
      (do
        Action.skipAll operands
        return .proceed : Action κ Verdict).run (m.movedTo c)

namespace Action

/-- Skipping a reader's operand moves the cursor, no matter on which machine. -/
theorem run_readWith_movedTo {α : Type} (operation : String)
    (read : Cursor → Except Fault (α × Cursor)) (c : Cursor) :
    ∃ (result : Except Fault Unit) (c' : Cursor), ∀ m : Machine κ,
      (do
        let _ ← readWith operation read
        return () : Action κ Unit).run (m.movedTo c) = ⟨result, m.movedTo c', []⟩ := by
  rcases hread : read c with e | ⟨value, next⟩
  · refine ⟨.error e, c, fun m ↦ ?_⟩
    simp only [run_bind, readWith, Machine.activity_movedTo, hread]
  · refine ⟨.ok (), next, fun m ↦ ?_⟩
    simp only [run_bind, readWith, Machine.activity_movedTo, hread]
    rfl

theorem run_skip (operand : OperandKind) (c : Cursor) :
    ∃ (result : Except Fault Unit) (c' : Cursor), ∀ m : Machine κ,
      (skip operand).run (m.movedTo c) = ⟨result, m.movedTo c', []⟩ := by
  cases operand with
  | byte => exact run_readWith_movedTo _ _ c
  | half => exact run_readWith_movedTo _ _ c
  | word => exact run_readWith_movedTo _ _ c
  | address =>
    rcases hread : c.readU32 with e | ⟨address, next⟩
    · refine ⟨.error e, c, fun m ↦ ?_⟩
      simp only [skip, run_bind, readTarget, Machine.activity_movedTo, hread]
    · by_cases hlength : address.toNat ≤ c.script.length
      · refine ⟨.ok (), next, fun m ↦ ?_⟩
        simp only [skip, run_bind, readTarget, Machine.activity_movedTo, hread, hlength, if_true]
        rfl
      · refine ⟨.error (.corruptProgram c.offset
          (.targetOutOfBounds address.toNat c.script.length)), next, fun m ↦ ?_⟩
        simp only [skip, run_bind, readTarget, Machine.activity_movedTo, hread, hlength, if_false]
        rfl

theorem run_skipAll (operands : List OperandKind) (c : Cursor) :
    ∃ (result : Except Fault Unit) (c' : Cursor), ∀ m : Machine κ,
      (skipAll operands).run (m.movedTo c) = ⟨result, m.movedTo c', []⟩ := by
  induction operands generalizing c with
  | nil => exact ⟨.ok (), c, fun _ ↦ rfl⟩
  | cons operand others ih =>
    obtain ⟨first, c', hfirst⟩ := run_skip (κ := κ) operand c
    rcases first with e | _
    · refine ⟨.error e, c', fun m ↦ ?_⟩
      rw [skipAll, run_bind, hfirst m]
    · obtain ⟨result, c'', hrest⟩ := ih c'
      refine ⟨result, c'', fun m ↦ ?_⟩
      rw [skipAll, run_bind, hfirst m]
      simp only [hrest m, List.append_nil]

end Action

/-! ## The two tables -/

namespace CommandTable

/-- The tables have the same bound and the same gaps, and their commands correspond. -/
structure Corresponds (R : κ → κ → Prop) (t t' : CommandTable κ) : Prop where
  /-- The bound is the same. -/
  length : t'.length = t.length
  /-- The entries correspond. -/
  entries : ∀ i : Nat, Option.Rel (Option.Rel R) t.entries[i]? t'.entries[i]?

namespace Corresponds

variable {R : κ → κ → Prop} {t t' : CommandTable κ}

theorem register (h : Corresponds R t t') (opcode : UInt8) {command command' : κ}
    (hR : R command command') :
    Corresponds R (t.register opcode command) (t'.register opcode command') := by
  constructor
  · rw [length_register, length_register, h.length]
  · intro i
    rw [getElem?_register, getElem?_register, h.length]
    by_cases hopcode : i = opcode.toNat
    · rw [if_pos hopcode, if_pos hopcode]
      exact .some (.some hR)
    · rw [if_neg hopcode, if_neg hopcode]
      by_cases hlength : i < t.length
      · rw [if_pos hlength, if_pos hlength]
        exact h.entries i
      · rw [if_neg hlength, if_neg hlength]
        by_cases hgap : i ≤ opcode.toNat
        · rw [if_pos hgap]
          exact .some .none
        · rw [if_neg hgap]
          exact .none

/-- Corresponding tables are without a command for the same reasons. -/
theorem lookup (h : Corresponds R t t') (opcode : UInt8) :
    (∃ kind, t.lookup opcode = .error kind ∧ t'.lookup opcode = .error kind) ∨
    (∃ command command', t.lookup opcode = .ok command ∧ t'.lookup opcode = .ok command' ∧
      R command command') := by
  have hentry := h.entries opcode.toNat
  rw [CommandTable.lookup, CommandTable.lookup, h.length]
  generalize t.entries[opcode.toNat]? = entry at hentry ⊢
  generalize t'.entries[opcode.toNat]? = entry' at hentry ⊢
  rcases hentry with ⟨⟨hR⟩ | _⟩ | _
  · exact .inr ⟨_, _, rfl, rfl, hR⟩
  · exact .inl ⟨_, rfl, rfl⟩
  · exact .inl ⟨_, rfl, rfl⟩

end Corresponds

end CommandTable

variable [CommandSet κ]

/-- The core table extended with commands that hand over. -/
def waitingTable (name : String) (handOffs : List (HandOff κ)) : CommandTable κ :=
  (CommandTable.derive name .core).edits (handOffs.map fun h ↦ .register h.opcode h.command)

/-- The same table in which no command waits. -/
def plainTable (name : String) (handOffs : List (HandOff κ)) : CommandTable κ :=
  (CommandTable.derive name .core).edits
    (.set .wait (CommandSet.core .nop) :: handOffs.map fun h ↦ .register h.opcode h.plain)

/-- What stands in the plain table in place of a command. -/
inductive Counterpart : κ → κ → Prop where
  /-- A core command other than the one that waits stays. -/
  | core {op : Opcode} : op ≠ .wait → Counterpart (CommandSet.core op) (CommandSet.core op)
  /-- Nothing is done in place of waiting. -/
  | wait : Counterpart (CommandSet.core .wait) (CommandSet.core .nop)
  /-- The operands are read in place of handing over. -/
  | handOff (h : HandOff κ) : Counterpart h.command h.plain

theorem corresponds_core (name name' : String) :
    CommandTable.Corresponds Counterpart (CommandTable.derive name (.core : CommandTable κ))
      ((CommandTable.derive name' .core).register Opcode.wait.toByte (CommandSet.core .nop)) := by
  have hentries (name : String) (i : Nat) :
      (CommandTable.derive name (.core : CommandTable κ)).entries[i]? =
        Opcode.all[i]?.map fun op ↦ some (CommandSet.core op) := List.getElem?_map
  have hunique : ∀ i : Fin 18, Opcode.all[i.val]? = some .wait →
      i.val = Opcode.wait.toByte.toNat := by decide
  constructor
  · rw [CommandTable.length_register]
    rfl
  · intro i
    rw [CommandTable.getElem?_register, hentries, hentries]
    by_cases hwait : i = Opcode.wait.toByte.toNat
    · rw [if_pos hwait, hwait, Opcode.getElem?_all_toByte]
      exact .some (.some .wait)
    · rw [if_neg hwait]
      by_cases hlength : i < 18
      · obtain ⟨op, hop⟩ : ∃ op, Opcode.all[i]? = some op :=
          ⟨_, List.getElem?_eq_getElem (by rwa [Opcode.length_all])⟩
        have hne : op ≠ .wait := by
          rintro rfl
          exact hwait (hunique ⟨i, hlength⟩ hop)
        rw [if_pos (by exact hlength), hop]
        exact .some (.some (.core hne))
      · have hbeyond : ¬i ≤ Opcode.wait.toByte.toNat := by
          rw [show Opcode.wait.toByte.toNat = 11 from rfl]
          omega
        rw [if_neg (by exact hlength), if_neg hbeyond,
          List.getElem?_eq_none (Nat.not_lt.mp hlength)]
        exact .none

theorem corresponds (name name' : String) (handOffs : List (HandOff κ)) :
    CommandTable.Corresponds Counterpart (waitingTable name handOffs)
      (plainTable name' handOffs) := by
  have hextend : ∀ t t' : CommandTable κ, CommandTable.Corresponds Counterpart t t' →
      CommandTable.Corresponds Counterpart
        (t.edits (handOffs.map fun h ↦ .register h.opcode h.command))
        (t'.edits (handOffs.map fun h ↦ .register h.opcode h.plain)) := by
    induction handOffs with
    | nil => exact fun t t' h ↦ h
    | cons handOff others ih =>
      intro t t' h
      exact ih _ _ (h.register handOff.opcode (.handOff handOff))
  exact hextend _ _ (corresponds_core name name')

end EventScript
