import EventScript.Proofs.Changes

/-!
# Calls and returns

Return addresses are given back last in, first out: whatever a subroutine does, the return that
ends it goes on where it was called, with the call stack that the call found. This holds across
nested and recursive calls, suspensions and native tasks, and it does not matter whether the host
or a command makes the calls and returns.

## The frame of a call

A call puts the place it comes from on top of the call stack, and the result is its frame.
Elementary changes only add to the top of the stack, take one entry from it, or clear it. As long
as the stack is no shorter than the frame, the frame is therefore still its lower end, and the
first return that makes it shorter takes the place of the call from the top.
-/

namespace EventScript

variable {κ : Type}

/-- **What a change does to the call stack**: nothing, or it adds the current place, or it goes back
to the place on top, or it clears the stack. Only a return goes back. -/
theorem Change.callStack_cases (change : Change κ) (m : Machine κ) :
    (change.apply m).callStack = m.callStack ∨
    (∃ place, (change.apply m).callStack = place :: m.callStack) ∨
    (∃ place rest, m.callStack = place :: rest ∧
      change.apply m = { m with activity := .script place, callStack := rest }) ∨
    (change ≠ .request .ret ∧ (change.apply m).callStack = []) := by
  rcases change with r | _ | e | task | temporaries
  · by_cases htouched : .callStack ∈ r.touched
    · cases r with
      | start script table =>
        simp only [apply, Request.perform, Action.start]
        split
        · exact .inr (.inr (.inr ⟨by rintro ⟨⟩, rfl⟩))
        · exact .inl rfl
      | startNative task =>
        simp only [apply, Request.perform, Action.startNative]
        split
        · exact .inr (.inr (.inr ⟨by rintro ⟨⟩, rfl⟩))
        · exact .inl rfl
      | call target =>
        simp only [apply, Request.perform, Action.call]
        split
        · split
          · exact .inr (.inl ⟨_, rfl⟩)
          · exact .inl rfl
        · exact .inl rfl
      | ret =>
        simp only [apply, Request.perform, Action.ret]
        split
        case h_1 place rest _ hstack => exact .inr (.inr (.inl ⟨place, rest, hstack, rfl⟩))
        case h_2 => exact .inl rfl
        case h_3 => exact .inl rfl
      | _ => simp [Request.touched] at htouched
    · exact .inl (Request.agreeIn htouched m)
  · refine .inl ?_
    simp only [apply, Action.park]
    split <;> rfl
  · exact .inl rfl
  · refine .inl ?_
    simp only [apply, Action.pollNative]
    split <;> rfl
  · exact .inl rfl

namespace Machine

variable {m : Machine κ} {frame : List Cursor}

theorem frame_suffix_apply (h : frame <:+ m.callStack) {change : Change κ}
    (hdepth : frame.length ≤ (change.apply m).depth) : frame <:+ (change.apply m).callStack := by
  rw [Context.depth] at hdepth
  obtain hkept | ⟨place, hpushed⟩ | ⟨place, rest, hstack, hpopped⟩ | ⟨-, hcleared⟩ :=
    change.callStack_cases m
  · rw [hkept]
    exact h
  · rw [hpushed]
    exact h.trans (List.suffix_cons place m.callStack)
  · rw [hpopped] at hdepth ⊢
    rw [hstack] at h
    rcases List.suffix_cons_iff.mp h with hwhole | hrest
    · rw [hwhole, List.length_cons] at hdepth
      exact absurd hdepth (Nat.not_succ_le_self rest.length)
    · exact hrest
  · rw [hcleared] at hdepth ⊢
    obtain rfl : frame = [] := List.length_eq_zero_iff.mp (Nat.le_zero.mp hdepth)
    exact List.nil_suffix

/-- **The frame stays** as long as the stack is no shorter. -/
theorem frame_suffix_applied (h : frame <:+ m.callStack) {changes : List (Change κ)}
    (hdepth : ∀ early, early <+: changes → frame.length ≤ (m.applied early).depth) :
    frame <:+ (m.applied changes).callStack := by
  induction changes generalizing m with
  | nil => exact h
  | cons change others ih =>
    have hfirst : frame.length ≤ (change.apply m).depth :=
      hdepth [change] ⟨others, rfl⟩
    refine ih (frame_suffix_apply h hfirst) fun early hearly ↦ ?_
    exact hdepth (change :: early) (List.cons_prefix_cons.mpr ⟨rfl, hearly⟩)

theorem apply_ret_of_frame {place : Cursor} {stack : List Cursor}
    (h : (place :: stack) <:+ m.callStack)
    (hdepth : (Change.apply m (.request .ret)).depth = stack.length) :
    Change.apply m (.request .ret) = { m with activity := .script place, callStack := stack } := by
  have hlength : stack.length + 1 ≤ m.callStack.length := h.length_le
  rw [Context.depth] at hdepth
  obtain hkept | ⟨top, hpushed⟩ | ⟨top, rest, hstack, hpopped⟩ | ⟨hother, -⟩ :=
    (Change.request .ret).callStack_cases m
  · rw [hkept] at hdepth
    omega
  · rw [hpushed, List.length_cons] at hdepth
    omega
  · rw [hpopped] at hdepth
    have hsame : place :: stack = top :: rest := by
      rw [← hstack]
      refine h.eq_of_length ?_
      rw [hstack, List.length_cons, List.length_cons, ← hdepth]
    obtain ⟨rfl, rfl⟩ := List.cons.inj hsame
    exact hpopped
  · exact absurd rfl hother

end Machine

/-- **Last in, first out.** A call from a running script succeeds as long as there is room, and
whatever follows it: if the call stack was not back to its old height before, the first return that
brings it back goes on from the place of the call, with the call stack that the call found. The
returns and the heights are those between all elementary changes that the turns make. -/
theorem return_restores [CommandSet κ] {m : Machine κ} {place : Cursor}
    (hplace : m.activity = .script place) (hroom : m.depth < stackCapacity) (target : Cursor)
    (turns : List (Turn κ)) :
    ∃ called : Machine κ, (Action.call target).run m = ⟨.ok (), called, []⟩ ∧
      called.activity = .script target ∧ called.callStack = place :: m.callStack ∧
      called.applied (called.changes turns) = called.afterTurns turns ∧
      ∀ front back, called.changes turns = front ++ .request .ret :: back →
        (∀ early, early <+: front → m.depth + 1 ≤ (called.applied early).depth) →
        (called.applied (front ++ [.request .ret])).depth = m.depth →
          (called.applied (front ++ [.request .ret])).activity = .script place ∧
          (called.applied (front ++ [.request .ret])).callStack = m.callStack := by
  let called : Machine κ := { m with activity := .script target, callStack := place :: m.callStack }
  refine ⟨called, ?_, rfl, rfl, Machine.applied_changes called turns, ?_⟩
  · simp only [Action.call, hplace, hroom, if_true]
    rfl
  · intro front back _ hearly hdepth
    have hstart : (place :: m.callStack) <:+ called.callStack := List.suffix_refl _
    have hframe : (place :: m.callStack) <:+ (called.applied front).callStack :=
      Machine.frame_suffix_applied hstart hearly
    rw [Machine.applied_append] at hdepth ⊢
    have hreturn := Machine.apply_ret_of_frame hframe hdepth
    exact ⟨congrArg (·.activity) hreturn, congrArg (·.callStack) hreturn⟩

/-- A subroutine at offset 6 that waits and then calls the return at offset 13. -/
def nestedScript : Script :=
  .ofBytes 0 [0x03, 0x06, 0x00, 0x00, 0x00, 0x01, 0x0b, 0x03, 0x0d, 0x00, 0x00, 0x00, 0x02, 0x02]

/-- The context behind its first instruction, which has not been carried out. -/
def nestedMachine : Machine Opcode :=
  { name := "primary", table := .core, activity := .script ⟨nestedScript, 5⟩,
    policy := .untilSuspend, budget := 4 }

/-- What the subroutine does up to the return that ends it. -/
def nestedChanges : List (Change Opcode) :=
  [.request .readU8, .park, .request .resume, .request .readU8, .request .readTarget,
    .request (.call ⟨nestedScript, 13⟩), .request .readU8, .request .ret, .request .readU8]

/-- The subroutine suspends, is resumed, and makes a call of its own; then it ends in the middle
of a step, which goes on behind the call. -/
theorem return_restores_nested :
    let turns : List (Turn Opcode) := [.act .stepOnce, .act (.request .resume), .act .step]
    ∃ called : Machine Opcode,
      (Action.call ⟨nestedScript, 6⟩).run nestedMachine = ⟨.ok (), called, []⟩ ∧
      called.changes turns =
        nestedChanges ++ .request .ret :: [.request .readU8, .request .stop] ∧
      (called.applied (nestedChanges ++ [.request .ret])).activity = .script ⟨nestedScript, 5⟩ ∧
      (called.applied (nestedChanges ++ [.request .ret])).callStack = [] ∧
      (called.afterTurns turns).mode = .paused := by
  intro turns
  have hroom : nestedMachine.depth < stackCapacity := by decide
  obtain ⟨called, hcall, -, -, -, hreturn⟩ :=
    return_restores (m := nestedMachine) rfl hroom ⟨nestedScript, 6⟩ turns
  have hcalled : ((Action.call ⟨nestedScript, 6⟩).run nestedMachine).machine = called :=
    congrArg Reply.machine hcall
  subst hcalled
  have hearly : ∀ j ≤ nestedChanges.length, nestedMachine.depth + 1 ≤
      (((Action.call ⟨nestedScript, 6⟩).run nestedMachine).machine.applied
        (nestedChanges.take j)).depth := by decide
  have hback := hreturn nestedChanges [.request .readU8, .request .stop] rfl
    (fun early hprefix ↦ by
      rw [List.prefix_iff_eq_take.mp hprefix]
      exact hearly _ hprefix.length_le) rfl
  exact ⟨_, hcall, rfl, hback.1, hback.2, rfl⟩

end EventScript
