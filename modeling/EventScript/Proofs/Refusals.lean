import EventScript.Proofs.Dispatch
import EventScript.Proofs.Frame
import EventScript.Proofs.Ticks

/-!
# Refused requests

A request can be refused for many reasons: the context is switched off, nothing is running or
nothing is parked, the call stack is full or empty, the operand does not fit, no bank or temporary
has that number. A command may catch the refusal and go on, and so may the host. For them it matters
that the refusal was all that happened.

## The exception

An address that points beyond the script has been read by the time it is refused, and the cursor
stands behind it. That is the one trace that a refusal can leave.

The end of a script by a fault is no refusal. There the context records the fault and lets go of the
script.
-/

namespace EventScript

variable {κ α : Type}

/-! ## Addresses beyond the script -/

/-- The running script has an address in front of its cursor that points beyond its end. -/
structure Machine.FacesBeyond (m : Machine κ) (c : Cursor) (address : UInt32) : Prop where
  /-- The script is running, from that cursor. -/
  running : m.activity = .script c
  /-- The address is there to be read. -/
  read : c.readU32 = .ok (address, c.advance 4)
  /-- It points beyond the end. -/
  beyond : c.script.length < address.toNat

theorem Cursor.eq_advance_of_readU32 {c next : Cursor} {value : UInt32}
    (h : c.readU32 = .ok (value, next)) : next = c.advance 4 := by
  rcases htake : Instruction.takeWord? c.rest with _ | ⟨v, back⟩
  · cases (readAs_of_none takes_word htake).symm.trans h
  · cases (readAs_of_some takes_word htake).1.symm.trans h
    rfl

namespace Action

theorem run_readTarget_of_facesBeyond {m : Machine κ} {c : Cursor} {address : UInt32}
    (h : m.FacesBeyond c address) :
    readTarget.run m =
      ⟨.error (.corruptProgram c.offset (.targetOutOfBounds address.toNat c.script.length)),
        m.movedTo (c.advance 4), []⟩ := by
  simp only [readTarget, h.running, h.read, if_neg (Nat.not_le.mpr h.beyond)]
  rfl

theorem readTarget_refused {m : Machine κ} {e : Fault} (he : (readTarget.run m).result = .error e) :
    (readTarget.run m).machine = m ∨ ∃ c address, m.FacesBeyond c address := by
  rcases hactivity : m.activity with _ | c | task
  · simp only [readTarget, hactivity, true_or]
  · rcases hread : c.readU32 with e' | ⟨address, next⟩
    · simp only [readTarget, hactivity, hread, true_or]
    · cases Cursor.eq_advance_of_readU32 hread
      by_cases hwithin : address.toNat ≤ c.script.length
      · simp only [readTarget, hactivity, hread, if_pos hwithin] at he
        cases he
      · exact .inr ⟨c, address, hactivity, hread, Nat.not_le.mp hwithin⟩
  · simp only [readTarget, hactivity, true_or]

end Action

theorem Machine.movedTo_advance_ne {m : Machine κ} {c : Cursor} (hrunning : m.activity = .script c)
    {n : Nat} (hn : 0 < n) : m.movedTo (c.advance n) ≠ m := by
  intro hsame
  have hactivity : Activity.script (c.advance n) = .script c :=
    (congrArg (·.activity) hsame).trans hrunning
  have hoffset : c.offset + n = c.offset := congrArg Cursor.offset (Activity.script.inj hactivity)
  omega

/-! ## Refusals -/

/-- **A refused request leaves no trace.** The machine is exactly as it was, with the temporaries it
sees, unless the request was to read an address and the address points beyond the script. Then the
cursor has moved over the four bytes of the address, and nothing else has changed. -/
theorem refused_leaves_no_trace {r : Request κ} {m : Machine κ} {e : Fault}
    (he : (r.perform.run m).result = .error e) :
    let after := (r.perform.run m).machine
    (r ≠ .readTarget → after = m) ∧
    (after ≠ m ↔ r = .readTarget ∧ ∃ c address, m.FacesBeyond c address) ∧
    ∀ c address, r = .readTarget → m.FacesBeyond c address →
      e = .corruptProgram c.offset (.targetOutOfBounds address.toNat c.script.length) ∧
        after = m.movedTo (c.advance 4) := by
  intro after
  by_cases hr : r = .readTarget
  · subst hr
    have htrace : ∀ c address, m.FacesBeyond c address →
        e = .corruptProgram c.offset (.targetOutOfBounds address.toNat c.script.length) ∧
          after = m.movedTo (c.advance 4) := by
      intro c address hfaces
      have hrun : (Request.readTarget.perform.run m : Reply κ Cursor) = _ :=
        Action.run_readTarget_of_facesBeyond hfaces
      rw [hrun] at he
      exact ⟨(Except.error.inj he).symm, congrArg Reply.machine hrun⟩
    refine ⟨fun hnot ↦ absurd rfl hnot, ⟨fun hchanged ↦ ⟨rfl, ?_⟩, ?_⟩, fun c address _ ↦
      htrace c address⟩
    · exact (Action.readTarget_refused he).resolve_left hchanged
    · rintro ⟨-, c, address, hfaces⟩
      rw [(htrace c address hfaces).2]
      exact Machine.movedTo_advance_ne hfaces.running (by decide)
  · have hsame : after = m := Request.machine_of_error hr he
    exact ⟨fun _ ↦ hsame, iff_of_false (fun hchanged ↦ hchanged hsame) fun h ↦ hr h.1,
      fun _ _ h ↦ absurd h hr⟩

/-- A call finds the stack full; an address is read that points beyond a script of five bytes. -/
theorem refused_leaves_no_trace_running :
    let c : Cursor := ⟨.ofBytes 0 [0x03, 0x09, 0x00, 0x00, 0x00], 1⟩
    let m : Machine Opcode :=
      { Context.new "primary" with
        activity := .script c
        callStack := List.replicate stackCapacity c
        lastFault := some .stackUnderflow }
    let call : Reply Opcode Unit := (Request.call c).perform.run m
    let read : Reply Opcode Cursor := Request.readTarget.perform.run m
    call.result = .error (.stackOverflow 20) ∧ call.machine = m ∧
      read.result = .error (.corruptProgram 1 (.targetOutOfBounds 9 5)) ∧
      read.machine = m.movedTo ⟨c.script, 5⟩ ∧ read.machine ≠ m := by
  intro c m call read
  have hcall : call.result = .error (.stackOverflow 20) := rfl
  have hread : read.result = .error (.corruptProgram 1 (.targetOutOfBounds 9 5)) := rfl
  have hfaces : m.FacesBeyond c 9 := ⟨rfl, rfl, by decide⟩
  obtain ⟨-, hchanged, htrace⟩ := refused_leaves_no_trace (r := .readTarget) hread
  exact ⟨hcall, (refused_leaves_no_trace (r := .call c) hcall).1 nofun, hread,
    (htrace c 9 rfl hfaces).2, hchanged.mpr ⟨rfl, c, 9, hfaces⟩⟩

/-! ## Where it matters -/

/-- A routine that catches a refusal goes on from where it was. -/
theorem Program.run_attempt_of_refused {r : Request κ} (hr : r ≠ .readTarget) {m : Machine κ}
    {e : Fault} (he : (r.perform.run m).result = .error e)
    (f : Except Fault r.Answer → Program κ α) :
    ((attempt r >>= f).perform.run m).result = ((f (.error e)).perform.run m).result ∧
      ((attempt r >>= f).perform.run m).machine = ((f (.error e)).perform.run m).machine := by
  have hsame : (r.perform.run m).machine = m := Request.machine_of_error hr he
  have hattempt : (attempt r).perform.run m = ⟨.ok (.error e), m, (r.perform.run m).events⟩ := by
    rw [attempt, run_perform_ask, he, hsame, perform, Action.run_pure, List.append_nil]
  rw [perform_bind, Action.run_bind, hattempt]
  exact ⟨rfl, rfl⟩

theorem Host.state_on_of_refused {h : Host κ} {side : Side} {r : Request κ} (hr : r ≠ .readTarget)
    {e : Fault} (he : (h.on side r.perform).answer = .error e) :
    (h.on side r.perform).state = h := by
  rw [answer_on] at he
  have hsame : (r.perform.run (h.machine side)).machine = h.machine side :=
    Request.machine_of_error hr he
  cases side with
  | primary =>
    change { h with
      primary := (r.perform.run (h.machine .primary)).machine.toContext
      temporaries := (r.perform.run (h.machine .primary)).machine.temporaries } = h
    rw [hsame]
    rfl
  | level =>
    change { h with
      level := (r.perform.run (h.machine .level)).machine.toContext
      temporaries := (r.perform.run (h.machine .level)).machine.temporaries } = h
    rw [hsame]
    rfl

end EventScript
