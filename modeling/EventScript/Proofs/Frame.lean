import EventScript.Machine.Routine

/-!
# What a request leaves alone

Each request has its business with a few parts of a machine and leaves the others as they are,
whether it is granted or refused. `Request.touched` lists the parts, and `Request.agreeIn` is the
one place where all requests are gone through; a fact such as "only switching on switches on" is
read off the list. A request that is refused leaves everything alone, with one exception.
-/

namespace EventScript

variable {κ : Type}

/-- A part of a machine. -/
inductive Part where
  | name
  | activity
  | parked
  | comparison
  | callStack
  | table
  | banks
  | enabled
  | inputControl
  | direction
  | policy
  | budget
  | lastFault
  | temporaries
  deriving DecidableEq

/-- The parts that a request may change; the name and the budget are never among them. -/
def Request.touched : Request κ → List Part
  | look | readBank _ | readTemporary _ => []
  | start _ _ => [.activity, .parked, .callStack, .table, .lastFault]
  | startNative _ => [.activity, .parked, .callStack, .lastFault]
  | resume | stop | runNative _ => [.activity, .parked]
  | call _ | ret => [.activity, .callStack]
  | jump _ | readU8 | readU16 | readU32 | readTarget => [.activity]
  | setTable _ | swapTable _ => [.table]
  | writeBank _ _ => [.banks]
  | writeTemporary _ _ => [.temporaries]
  | setComparison _ => [.comparison]
  | setEnabled _ => [.enabled]
  | setInputControl _ => [.inputControl]
  | setDirection _ => [.direction]
  | setPolicy _ => [.policy]

/-- The two machines agree in a part. -/
def Machine.AgreeIn (m n : Machine κ) : Part → Prop
  | .name => n.name = m.name
  | .activity => n.activity = m.activity
  | .parked => n.parked = m.parked
  | .comparison => n.comparison = m.comparison
  | .callStack => n.callStack = m.callStack
  | .table => n.table = m.table
  | .banks => n.banks = m.banks
  | .enabled => n.enabled = m.enabled
  | .inputControl => n.inputControl = m.inputControl
  | .direction => n.direction = m.direction
  | .policy => n.policy = m.policy
  | .budget => n.budget = m.budget
  | .lastFault => n.lastFault = m.lastFault
  | .temporaries => n.temporaries = m.temporaries

theorem Machine.AgreeIn.refl (m : Machine κ) (part : Part) : m.AgreeIn m part := by
  cases part <;> rfl

namespace Request

/-- **A request changes only the parts it touches.** -/
theorem agreeIn {r : Request κ} {part : Part} (h : part ∉ r.touched) (m : Machine κ) :
    m.AgreeIn (r.perform.run m).machine part := by
  cases r with
  | look | readTemporary _ => exact .refl m part
  | stop | runNative _ | setTable _ | swapTable _ | setComparison _ | setEnabled _
  | setInputControl _ | setDirection _ | setPolicy _ =>
    cases part <;> simp [touched] at h <;> rfl
  | start _ _ =>
    simp only [perform, Action.start]
    split
    · cases part <;> simp [touched] at h <;> rfl
    · exact .refl m part
  | startNative _ =>
    simp only [perform, Action.startNative]
    split
    · cases part <;> simp [touched] at h <;> rfl
    · exact .refl m part
  | resume =>
    simp only [perform, Action.resume]
    split
    · exact .refl m part
    · split
      · cases part <;> simp [touched] at h <;> rfl
      · exact .refl m part
  | call _ =>
    simp only [perform, Action.call]
    split
    · split
      · cases part <;> simp [touched] at h <;> rfl
      · exact .refl m part
    · exact .refl m part
  | ret =>
    simp only [perform, Action.ret]
    split
    · cases part <;> simp [touched] at h <;> rfl
    · exact .refl m part
    · exact .refl m part
  | jump _ =>
    simp only [perform, Action.jump]
    split
    · cases part <;> simp [touched] at h <;> rfl
    · exact .refl m part
  | readU8 | readU16 | readU32 =>
    simp only [perform, Action.readU8, Action.readU16, Action.readU32, Action.readWith]
    split
    · split
      · cases part <;> simp [touched] at h <;> rfl
      · exact .refl m part
    · exact .refl m part
  | readTarget =>
    simp only [perform, Action.readTarget]
    split
    · split
      · exact .refl m part
      · cases part <;> simp [touched] at h <;> rfl
    · exact .refl m part
  | readBank _ =>
    simp only [perform, Action.readBank]
    split
    · exact .refl m part
    · exact .refl m part
  | writeBank _ _ =>
    simp only [perform, Action.writeBank]
    split
    · cases part <;> simp [touched] at h <;> rfl
    · exact .refl m part
  | writeTemporary _ _ =>
    simp only [perform, Action.writeTemporary]
    split
    · cases part <;> simp [touched] at h <;> rfl
    · exact .refl m part

/-- **A refused request leaves the machine as it was**, unless it has read an address by then. -/
theorem machine_of_error {r : Request κ} (hr : r ≠ .readTarget) {m : Machine κ} {e : Fault}
    (h : (r.perform.run m).result = .error e) : (r.perform.run m).machine = m := by
  revert h
  cases r with
  | look | stop | runNative _ | setTable _ | swapTable _ | setComparison _ | setEnabled _
  | setInputControl _ | setDirection _ | setPolicy _ => nofun
  | readTemporary _ => exact fun _ ↦ rfl
  | readTarget => exact absurd rfl hr
  | start _ _ | startNative _ | writeBank _ _ =>
    simp only [perform, Action.start, Action.startNative, Action.writeBank]
    split
    · nofun
    · exact fun _ ↦ rfl
  | resume =>
    simp only [perform, Action.resume]
    split
    · exact fun _ ↦ rfl
    · split
      · nofun
      · exact fun _ ↦ rfl
  | call _ =>
    simp only [perform, Action.call]
    split
    · split
      · nofun
      · exact fun _ ↦ rfl
    · exact fun _ ↦ rfl
  | ret =>
    simp only [perform, Action.ret]
    split
    · nofun
    · exact fun _ ↦ rfl
    · exact fun _ ↦ rfl
  | jump _ | writeTemporary _ _ =>
    simp only [perform, Action.jump, Action.writeTemporary]
    split
    · nofun
    · exact fun _ ↦ rfl
  | readU8 | readU16 | readU32 =>
    simp only [perform, Action.readU8, Action.readU16, Action.readU32, Action.readWith]
    split
    · split
      · nofun
      · exact fun _ ↦ rfl
    · exact fun _ ↦ rfl
  | readBank _ =>
    simp only [perform, Action.readBank]
    split
    · nofun
    · exact fun _ ↦ rfl

end Request

end EventScript
