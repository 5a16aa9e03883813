import EventScript.Fault

/-!
# Temporary variables

Five 16-bit variables through which scripts pass arguments to special commands and read results
back. Unlike the banks of a context they belong to the host, and all its contexts see the same set.
-/

namespace EventScript

/-- The values of the temporary variables. -/
structure Temporaries where
  /-- One value for each id, in the order of `Temporaries.ids`. -/
  values : Vector UInt16 5
  deriving DecidableEq

namespace Temporaries

/-- The ids of the temporary variables. -/
def ids : Vector UInt16 5 := #v[0x8000, 0x8001, 0x8002, 0x8003, 0x800d]

/-- The variable by which a special command returns its result. -/
def resultId : UInt16 := 0x800d

/-- All variables zero. -/
def zero : Temporaries := ⟨Vector.replicate 5 0⟩

/-- The place of an id. -/
def slot? (id : UInt16) : Option (Fin 5) :=
  if id = 0x8000 then some 0
  else if id = 0x8001 then some 1
  else if id = 0x8002 then some 2
  else if id = 0x8003 then some 3
  else if id = 0x800d then some 4
  else none

/-- The value of a variable. -/
def get (t : Temporaries) (id : UInt16) : Except Fault UInt16 :=
  match slot? id with
  | some i => .ok (t.values[i])
  | none => .error (.invalidTemporary id)

/-- The set with one variable changed. -/
def set (t : Temporaries) (id value : UInt16) : Except Fault Temporaries :=
  match slot? id with
  | some i => .ok ⟨t.values.set i value⟩
  | none => .error (.invalidTemporary id)

/-- Ids and values in order. -/
def toList (t : Temporaries) : List (UInt16 × UInt16) := ids.toList.zip t.values.toList

/-- The structure of the set as text. -/
def inspect (t : Temporaries) : String :=
  "TemporaryVars \x7b values: [" ++
    ", ".intercalate (t.values.toList.map fun v ↦ toString v.toNat) ++ "] \x7d"

/-- A place belongs to the id that leads to it. -/
theorem slot?_eq_some_iff {id : UInt16} {i : Fin 5} : slot? id = some i ↔ ids[i] = id := by
  constructor
  · intro h
    unfold slot? at h
    split at h
    · cases h; subst id; rfl
    split at h
    · cases h; subst id; rfl
    split at h
    · cases h; subst id; rfl
    split at h
    · cases h; subst id; rfl
    split at h
    · cases h; subst id; rfl
    · cases h
  · rintro rfl
    match i with
    | 0 | 1 | 2 | 3 | 4 => rfl

theorem notMem_ids_of_slot? {id : UInt16} (h : slot? id = none) : id ∉ ids := by
  intro hmem
  obtain ⟨i, hi, hid⟩ := Vector.mem_iff_getElem.mp hmem
  have hslot : slot? id = some ⟨i, hi⟩ := slot?_eq_some_iff.mpr hid
  rw [h] at hslot
  cases hslot

end Temporaries

end EventScript
