import EventScript.Proofs.Atomicity

/-!
# Scripts without loops stop

A script whose addresses all lead forward cannot go round in circles, and still its cursor does not
only move forward: a return goes back to the call. This file shows that such a script comes to an
end all the same, at its last byte, at a command that stops it, or with a fault, however often it
waits on the way and whatever bytes it consists of. The offsets looked at are all offsets, also
those inside of instructions, because a jump may lead there.

## The measure

The places of a machine are its cursor and its return addresses. A unit that calls nothing moves the
cursor forward or, if it returns, drops it. A call replaces the cursor by two places: the return
address, which lies further on than the cursor did, and the target. The target may lie anywhere, but
it stands one level higher in the call stack, and the call stack has room for twenty places. The
distances of the places from the end of the script are therefore read as the digits of a number, in
which the lower end of the call stack comes first; every unit makes that number smaller.

It follows that calls need not lead forward at all (`RunsCore.exists_ends`): the room in the call
stack already bounds them. Only jumps back make loops.
-/

namespace EventScript

open Instruction

variable {κ : Type}

/-! ## Scripts that lead forward -/

/-- The address operand of the two commands that jump. -/
def Instruction.jumpTarget? : Instruction → Option UInt32
  | goto target | gotoIf _ target => some target
  | _ => none

theorem Instruction.target?_of_jumpTarget? {i : Instruction} {address : UInt32}
    (h : i.jumpTarget? = some address) : i.target? = some address := by
  cases i with
  | goto _ | gotoIf _ _ => exact h
  | _ => cases h

namespace Script

/-- Wherever an instruction with an address stands, the address lies behind it, if it lies in the
script at all. -/
def ForwardOnly (s : Script) : Prop :=
  ∀ (offset : Nat) (i : Instruction) (back : List UInt8),
    (⟨s, offset⟩ : Cursor).rest = i.encode ++ back →
      ∀ address ∈ i.target?, address.toNat ≤ s.length → offset < address.toNat

/-- Wherever a jump stands, its address lies behind it, if it lies in the script at all. -/
def JumpsForward (s : Script) : Prop :=
  ∀ (offset : Nat) (i : Instruction) (back : List UInt8),
    (⟨s, offset⟩ : Cursor).rest = i.encode ++ back →
      ∀ address ∈ i.jumpTarget?, address.toNat ≤ s.length → offset < address.toNat

theorem ForwardOnly.jumpsForward {s : Script} (h : s.ForwardOnly) : s.JumpsForward :=
  fun offset i back hrest address haddress ↦
    h offset i back hrest address (target?_of_jumpTarget? haddress)

end Script

theorem Cursor.offset_lt_of_rest {c : Cursor} {i : Instruction} {back : List UInt8}
    (h : c.rest = i.encode ++ back) : c.offset < c.script.length := by
  have hlength : 0 < c.rest.length := by
    rw [h, encode]
    exact Nat.succ_pos _
  rw [length_rest, remaining] at hlength
  omega

/-- Whether a script leads forward is settled by reading an instruction at each of its bytes. -/
theorem Script.forwardOnly_iff {s : Script} :
    s.ForwardOnly ↔ ∀ offset < s.length, (decode? (⟨s, offset⟩ : Cursor).rest).all fun (i, _) ↦
      i.target?.all fun address ↦ address.toNat ≤ s.length → offset < address.toNat := by
  simp only [Option.all_eq_true, decide_eq_true_eq]
  constructor
  · rintro h offset - ⟨i, back⟩ hx
    exact h offset i back (decode?_eq_some_iff.mp hx)
  · intro h offset i back hrest
    exact h offset (Cursor.offset_lt_of_rest hrest) (i, back) (decode?_eq_some_iff.mpr hrest)

instance (s : Script) : Decidable s.ForwardOnly := decidable_of_iff _ Script.forwardOnly_iff.symm

/-! ## The measure -/

/-- How far it is to the end, as a number whose digits are the distances of the places. The first
place stands highest in the call stack and is the lowest digit. -/
def distance (length : Nat) : List Cursor → Nat
  | [] => 0
  | c :: stack =>
    (length + 1 - c.offset) * (length + 2) ^ (20 - stack.length) + distance length stack

/-- What a unit makes of the places of a machine that runs a script. -/
inductive Advances (s : Script) : List Cursor → List Cursor → Prop where
  /-- The cursor moves forward. -/
  | forward {c d : Cursor} {stack : List Cursor} :
    d.script = s → c.offset < d.offset → Advances s (c :: stack) (d :: stack)
  /-- The place behind the call is kept, and the cursor goes anywhere. -/
  | call {c target next : Cursor} {stack : List Cursor} :
    target.script = s → next.script = s → c.offset < next.offset → stack.length < 20 →
      Advances s (c :: stack) (target :: next :: stack)
  /-- The cursor is dropped. -/
  | ret {c : Cursor} {stack : List Cursor} : Advances s (c :: stack) stack

namespace Advances

variable {s : Script} {c : Cursor} {stack places : List Cursor}

theorem script (h : Advances s (c :: stack) places) (hstack : ∀ p ∈ c :: stack, p.script = s) :
    ∀ p ∈ places, p.script = s := by
  obtain ⟨-, hbelow⟩ := List.forall_mem_cons.mp hstack
  cases h with
  | forward hd _ => exact List.forall_mem_cons.mpr ⟨hd, hbelow⟩
  | call htarget hnext _ _ =>
    exact List.forall_mem_cons.mpr ⟨htarget, List.forall_mem_cons.mpr ⟨hnext, hbelow⟩⟩
  | ret => exact hbelow

/-- **A unit gets closer to the end.** -/
theorem distance_lt {length : Nat} (h : Advances s (c :: stack) places) (hc : c.offset < length) :
    distance length places < distance length (c :: stack) := by
  rw [distance]
  cases h with
  | @forward _ d _ _ hoffset =>
    have hless : length + 1 - d.offset < length + 1 - c.offset := by omega
    have hweight : 0 < (length + 2) ^ (20 - stack.length) := Nat.pow_pos (Nat.succ_pos _)
    rw [distance]
    exact Nat.add_lt_add_right (Nat.mul_lt_mul_of_pos_right hless hweight) _
  | @call _ target next _ _ _ hoffset hroom =>
    -- The digit of the return address is smaller by one at least, and the target has one digit.
    obtain ⟨room, hroom⟩ : ∃ room, 20 - stack.length = room + 1 := ⟨19 - stack.length, by omega⟩
    have hlower : 20 - (next :: stack).length = room := by
      rw [List.length_cons]
      omega
    obtain ⟨digit, hdigit⟩ : ∃ digit, length + 1 - c.offset = digit + 1 :=
      ⟨length - c.offset, by omega⟩
    have hnext : length + 1 - next.offset ≤ digit := by omega
    have htarget : length + 1 - target.offset < length + 2 := by omega
    have hweight : 0 < (length + 2) ^ room := Nat.pow_pos (Nat.succ_pos _)
    have hhigher : (length + 1 - next.offset) * (length + 2) ^ (room + 1) ≤
        digit * (length + 2) ^ (room + 1) := Nat.mul_le_mul_right _ hnext
    have hlow : (length + 1 - target.offset) * (length + 2) ^ room <
        (length + 2) ^ (room + 1) := by
      rw [Nat.pow_succ']
      exact Nat.mul_lt_mul_of_pos_right htarget hweight
    rw [distance, distance, hlower, hroom, hdigit, Nat.succ_mul]
    omega
  | ret =>
    have hdigit : 0 < length + 1 - c.offset := by omega
    have hweight : 0 < (length + 2) ^ (20 - stack.length) := Nat.pow_pos (Nat.succ_pos _)
    exact Nat.lt_add_of_pos_left (Nat.mul_pos hdigit hweight)

end Advances

/-! ## Units of a script that leads forward -/

theorem toNat_le_of_checkTarget {next : Cursor} {address : UInt32}
    (h : checkTarget next address = .ok ()) : address.toNat ≤ next.script.length := by
  rw [checkTarget] at h
  split at h
  · assumption
  · cases h

/-- **The course of an instruction** after which the script goes on. -/
theorem Instruction.advances_effect {i : Instruction} {c next : Cursor} {m : Machine κ}
    (hcheck : i.check next m = .ok ()) (houtcome : i.outcome = .running)
    (hnext : c.offset < next.offset)
    (hjump : ∀ address ∈ i.jumpTarget?, address.toNat ≤ next.script.length →
      c.offset < address.toNat) :
    ∃ d, (i.effect next m).activity = .script d ∧
      Advances next.script (c :: m.callStack) (d :: (i.effect next m).callStack) := by
  have hon : Advances next.script (c :: m.callStack) (next :: m.callStack) := .forward rfl hnext
  have hcall (address : UInt32) (hroom : checkRoom m = .ok ()) :
      Advances next.script (c :: m.callStack)
        (⟨next.script, address.toNat⟩ :: next :: m.callStack) := by
    rw [checkRoom] at hroom
    split at hroom
    · exact .call rfl rfl hnext ‹_›
    · cases hroom
  cases i with
  | stop | wait => cases houtcome
  | ret =>
    rw [check, Context.depth] at hcheck
    rw [effect]
    rcases hstack : m.callStack with _ | ⟨place, others⟩
    · rw [hstack] at hcheck
      cases hcheck
    · exact ⟨place, rfl, .ret⟩
  | goto address =>
    exact ⟨_, rfl, .forward rfl (hjump address rfl (toNat_le_of_checkTarget hcheck))⟩
  | gotoIf condition address =>
    rw [effect]
    split
    · exact ⟨_, rfl, .forward rfl (hjump address rfl (toNat_le_of_checkTarget hcheck))⟩
    · exact ⟨next, rfl, hon⟩
  | call address =>
    rw [check] at hcheck
    rcases htarget : checkTarget next address with e | _
    · rw [htarget] at hcheck
      cases hcheck
    · rw [htarget] at hcheck
      exact ⟨_, rfl, hcall address hcheck⟩
  | callIf condition address =>
    rw [check] at hcheck
    rw [effect]
    rcases htarget : checkTarget next address with e | _
    · rw [htarget] at hcheck
      cases hcheck
    · rw [htarget] at hcheck
      split
      case isTrue hholds => exact ⟨_, rfl, hcall address ((if_pos hholds).symm.trans hcheck)⟩
      case isFalse => exact ⟨next, rfl, hon⟩
  | loadBank _ _ | addBank _ _ | copyBank _ _ | loadTemp _ _ =>
    rw [effect, Machine.withBank]
    split <;> exact ⟨next, rfl, hon⟩
  | setTemp _ _ | storeTemp _ _ =>
    rw [effect, Machine.withTemporary]
    split <;> exact ⟨next, rfl, hon⟩
  | _ => exact ⟨next, rfl, hon⟩

theorem Instruction.outcome_cases (i : Instruction) :
    i = stop ∨ i = wait ∨ i.outcome = .running := by
  cases i with
  | stop => exact .inl rfl
  | wait => exact .inr (.inl rfl)
  | _ => exact .inr (.inr rfl)

/-! ## Runs -/

section runs

open EventScript.Action Machine

variable [CommandSet κ] {origin m : Machine κ} {c : Cursor}

namespace Machine

theorem driven_of_activity (h : m.activity = .script c) : m.driven = m.stepped := by
  rw [driven, h]

/-- A run ends with a unit that answers so and leaves a machine that has nothing left to do. -/
theorem Ends.now {next : Machine κ → Machine κ} {n : Machine κ} {ending : Ending}
    (hresult : (stepOnce.run m).result = ending.result) (hstepped : m.stepped = n)
    (hmode : n.mode = .paused) (hparked : n.parked = none) : m.Ends next ending :=
  ⟨0, hresult, (congrArg (·.mode) hstepped).trans hmode,
    (congrArg (·.parked) hstepped).trans hparked⟩

theorem Ends.later {next : Machine κ → Machine κ} (h : ∃ ending, (next m).Ends next ending) :
    ∃ ending, m.Ends next ending := by
  obtain ⟨ending, count, hcount⟩ := h
  exact ⟨ending, count + 1, by rwa [Function.iterate_succ_apply]⟩

end Machine

namespace Action.RunsCore

theorem driven_of_waits (hm : RunsCore origin m)
    (h : m.stepped = { m with activity := .paused, parked := some c }) :
    m.stepped.driven = m.released c := by
  have henabled : m.enabled = true := hm.enabled.trans hm.on
  rw [h, driven, resume]
  dsimp only
  rw [if_neg (by rw [henabled]; decide)]
  rfl

theorem released (hm : RunsCore origin m) (c : Cursor) : RunsCore origin (m.released c) :=
  ⟨⟨⟨hm.name, hm.table, hm.enabled, hm.policy, hm.budget⟩, nofun⟩, hm.core, hm.on, rfl⟩

/-- **A script in which no jump leads back comes to an end**, wherever its cursor and the return
addresses stand. -/
theorem exists_ends {s : Script} (hs : s.JumpsForward) (hm : RunsCore origin m)
    (hactivity : m.activity = .script c) (hplaces : ∀ p ∈ c :: m.callStack, p.script = s) :
    ∃ ending, m.Ends driven ending := by
  generalize hdistance : distance s.length (c :: m.callStack) = measure
  induction measure using Nat.strongRecOn generalizing m c with
  | _ measure ih =>
    have hscript : c.script = s := hplaces c List.mem_cons_self
    have hdriven : m.driven = m.stepped := driven_of_activity hactivity
    obtain ⟨-, hresult, hstepped⟩ | ⟨e, hresult, hstepped⟩ |
      ⟨i, back, hrest, hcheck, hresult, hstepped⟩ := hm.stepOnce_cases hactivity
    · exact ⟨.halt, .now hresult hstepped rfl rfl⟩
    · exact ⟨.fault e, .now hresult hstepped rfl rfl⟩
    · have hoffset : c.offset < s.length := hscript ▸ Cursor.offset_lt_of_rest hrest
      have hbehind : c.offset < (c.advance i.opcode.size).offset := by
        rw [Cursor.offset_advance, ← one_add_length_operands]
        omega
      -- A machine with places closer to the end comes to an end.
      have hnext {n : Machine κ} {d : Cursor} (hn : RunsCore origin n)
          (hd : n.activity = .script d)
          (hadvances : Advances s (c :: m.callStack) (d :: n.callStack)) :
          ∃ ending, n.Ends driven ending :=
        ih _ (hdistance ▸ hadvances.distance_lt hoffset) hn hd (hadvances.script hplaces) rfl
      obtain rfl | rfl | houtcome := i.outcome_cases
      · exact ⟨.halt, .now hresult hstepped rfl rfl⟩
      · refine Ends.later (Ends.later ?_)
        rw [hdriven, hm.driven_of_waits hstepped]
        exact hnext (hm.released _) rfl (.forward hscript hbehind)
      · obtain ⟨d, hd, hadvances⟩ := advances_effect (c := c) hcheck houtcome hbehind <| by
          intro address haddress hlength
          rw [Cursor.script_advance, hscript] at hlength
          exact hs c.offset i back (hscript ▸ hrest) address haddress hlength
        rw [← hstepped] at hd hadvances
        rw [Cursor.script_advance, hscript] at hadvances
        refine Ends.later ?_
        rw [hdriven]
        exact hnext (hm.next (hresult.trans (congrArg _ houtcome))) hd hadvances

end Action.RunsCore

end runs

open Machine

/-- **A script whose addresses all lead forward comes to an end.** Whatever state the machine was in
in which it is started, after finitely many units and resumptions a unit answers that the script is
over or fails. -/
theorem forward_only_stops [CommandSet κ] {s : Script} (hs : s.ForwardOnly) {m : Machine κ}
    (h : m.enabled = true) : ∃ ending, (m.launched s).Ends driven ending := by
  have hlaunched := launched_eq s h
  have hactivity : (m.launched s).activity = .script s.start := by rw [hlaunched]
  have hstack : (m.launched s).callStack = [] := by
    rw [hlaunched]
    rfl
  refine (runsCore_launched s h).exists_ends hs.jumpsForward hactivity ?_
  rw [hstack]
  exact List.forall_mem_singleton.mpr rfl

/-- A subroutine that waits and calls another one, which waits and returns; then the end. -/
def twoDeepScript : Script :=
  .ofBytes 0 [0x03, 0x07, 0x00, 0x00, 0x00, 0x0b, 0x01, 0x06, 0x00, 0x0e, 0x00, 0x00, 0x00, 0x02,
    0x0b, 0x02]

/-- The cursor goes from the second subroutine back to the first one and from there to the call. -/
theorem forward_only_stops_nested :
    twoDeepScript.ForwardOnly ∧
      ∃ ending, (Machine.launched (.new "primary" : Machine Opcode) twoDeepScript).Ends driven
        ending :=
  have hforward : twoDeepScript.ForwardOnly := by decide
  ⟨hforward, forward_only_stops hforward rfl⟩

end EventScript
