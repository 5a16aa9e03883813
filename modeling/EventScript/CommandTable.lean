import EventScript.Fault
import EventScript.Opcode

/-!
# Command tables

A command table says which command an opcode byte runs. It is bounded: a byte beyond the last entry
is out of range, and a byte inside the bound may still have no command. Tables are values, so a
running context changes its commands by binding another table and never sees one change under it.

A table names its commands and does not contain what they do; the type `κ` of names is a parameter.
Tables may therefore refer to one another freely, also in circles, by way of commands that rebind
the table of the context that runs them.
-/

namespace EventScript

/-- Commands by opcode. -/
structure CommandTable (κ : Type) where
  /-- The name shown in log records. -/
  name : String
  /-- Entry `n` belongs to opcode `n`. -/
  entries : List (Option κ)
  deriving DecidableEq

/-- A change to a table under construction. -/
inductive TableEdit (κ : Type) where
  /-- Gives an opcode a command, in place of any it had. -/
  | register (opcode : UInt8) (command : κ)
  /-- Gives a core opcode a command. -/
  | set (opcode : Opcode) (command : κ)
  /-- Takes the command of an opcode away. -/
  | unregister (opcode : UInt8)

namespace CommandTable

variable {κ : Type}

/-- A table without entries. -/
def empty (name : String) : CommandTable κ := ⟨name, []⟩

/-- A table with the entries of another one. -/
def derive (name : String) (base : CommandTable κ) : CommandTable κ := ⟨name, base.entries⟩

/-- The number of entries; the opcodes in range are those below it. -/
def length (t : CommandTable κ) : Nat := t.entries.length

/-- The last opcode in range. -/
def lastOpcode? (t : CommandTable κ) : Option UInt8 :=
  match t.length with
  | 0 => none
  | n + 1 => some (UInt8.ofNat n)

/-- The command of an opcode. -/
def lookup (t : CommandTable κ) (opcode : UInt8) : Except Corruption κ :=
  match t.entries[opcode.toNat]? with
  | none => .error (.opcodeOutOfRange opcode t.length)
  | some none => .error (.unassignedOpcode opcode)
  | some (some command) => .ok command

/-- Gives an opcode a command. The table grows as far as needed, with gaps left unassigned. -/
def register (t : CommandTable κ) (opcode : UInt8) (command : κ) : CommandTable κ :=
  let gap := List.replicate (opcode.toNat + 1 - t.length) none
  { t with entries := (t.entries ++ gap).set opcode.toNat (some command) }

/-- Takes the command of an opcode away. The bound stays, and nothing happens beyond it. -/
def unregister (t : CommandTable κ) (opcode : UInt8) : CommandTable κ :=
  { t with entries := t.entries.set opcode.toNat none }

/-- Makes one change. -/
def edit (t : CommandTable κ) : TableEdit κ → CommandTable κ
  | .register opcode command => t.register opcode command
  | .set opcode command => t.register opcode.toByte command
  | .unregister opcode => t.unregister opcode

/-- Makes changes in order. -/
def edits (t : CommandTable κ) (changes : List (TableEdit κ)) : CommandTable κ :=
  changes.foldl edit t

/-- The opcodes that have a command, in ascending order. -/
def assigned (t : CommandTable κ) : List Nat :=
  (List.range t.length).filter fun n ↦ (t.entries[n]?.join).isSome

/-- The structure of a table as text, without its entries. -/
def inspect (t : CommandTable κ) : String :=
  "CommandTable \x7b name: " ++ Text.quoted t.name ++ s!", len: {t.length} \x7d"

/-! ## Entries after a change -/

@[simp] theorem length_register (t : CommandTable κ) (opcode : UInt8) (command : κ) :
    (t.register opcode command).length = max t.length (opcode.toNat + 1) := by
  simp only [register, length, List.length_set, List.length_append, List.length_replicate]
  omega

@[simp] theorem length_unregister (t : CommandTable κ) (opcode : UInt8) :
    (t.unregister opcode).length = t.length := by
  simp [unregister, length]

/-- An entry after an opcode was given a command. The gaps that this may leave are unassigned. -/
theorem getElem?_register (t : CommandTable κ) (opcode : UInt8) (command : κ) (i : Nat) :
    (t.register opcode command).entries[i]? =
      if i = opcode.toNat then some (some command)
      else if i < t.length then t.entries[i]?
      else if i ≤ opcode.toNat then some none else none := by
  rw [register, length, List.getElem?_set]
  by_cases hopcode : i = opcode.toNat
  · subst hopcode
    have hroom : opcode.toNat <
        (t.entries ++ List.replicate (opcode.toNat + 1 - t.entries.length) none).length := by
      rw [List.length_append, List.length_replicate]
      omega
    rw [if_pos rfl, if_pos hroom, if_pos rfl]
  · rw [if_neg (Ne.symm hopcode), if_neg hopcode]
    by_cases hlength : i < t.entries.length
    · rw [if_pos hlength, List.getElem?_append_left hlength]
    · rw [if_neg hlength, List.getElem?_append_right (Nat.not_lt.mp hlength),
        List.getElem?_replicate]
      by_cases hgap : i ≤ opcode.toNat
      · rw [if_pos hgap, if_pos (by omega)]
      · rw [if_neg hgap, if_neg (by omega)]

theorem getElem?_unregister (t : CommandTable κ) (opcode : UInt8) (i : Nat) :
    (t.unregister opcode).entries[i]? =
      if opcode.toNat = i then t.entries[i]?.map fun _ ↦ none else t.entries[i]? := by
  rw [unregister, List.getElem?_set]
  by_cases hi : opcode.toNat = i
  · rw [if_pos hi, if_pos hi]
    by_cases hlength : i < t.entries.length
    · rw [if_pos (by omega), List.getElem?_eq_getElem hlength]
      rfl
    · rw [if_neg (by omega), List.getElem?_eq_none (by omega)]
      rfl
  · rw [if_neg hi, if_neg hi]

end CommandTable

end EventScript
