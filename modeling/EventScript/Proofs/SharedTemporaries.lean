import EventScript.Proofs.Ticks
import EventScript.Proofs.Untouched

/-!
# The contexts of a host meet in the temporaries

The two contexts of a host have nothing in common but the temporaries. If the commands of one cannot
write to them, the other one runs as if it were alone: what it does, and what becomes of it, is the
same next to any context of that kind, busy or idle, faulted or not.

## Why the order of a tick matters

A tick steps the level context first, so that the primary context sees what it has written. When
neither context can write, nothing is left for the order to decide, and a tick that began with the
primary context would come to the same.
-/

namespace EventScript

variable {κ : Type}

namespace CommandTable

/-- What a table has after a command was taken away, it had before, under another opcode. -/
theorem lookup_of_unregister {t : CommandTable κ} {taken opcode : UInt8} {command : κ}
    (h : (t.unregister taken).lookup opcode = .ok command) :
    opcode ≠ taken ∧ t.lookup opcode = .ok command := by
  rw [lookup, getElem?_unregister] at h
  by_cases hopcode : taken.toNat = opcode.toNat
  · rw [if_pos hopcode] at h
    rcases hentry : t.entries[opcode.toNat]? with _ | entry <;> rw [hentry] at h <;> cases h
  · rw [if_neg hopcode] at h
    refine ⟨fun heq ↦ hopcode (by rw [heq]), ?_⟩
    rw [lookup]
    rcases hentry : t.entries[opcode.toNat]? with _ | _ | entry <;> rw [hentry] at h <;> cases h
    rfl

theorem lookup_of_unregister_all {t : CommandTable κ} {taken : List UInt8} {opcode : UInt8}
    {command : κ} (h : (t.edits (taken.map .unregister)).lookup opcode = .ok command) :
    opcode ∉ taken ∧ t.lookup opcode = .ok command := by
  induction taken generalizing t with
  | nil => exact ⟨List.not_mem_nil, h⟩
  | cons first others ih =>
    obtain ⟨hothers, hlookup⟩ := ih (t := t.unregister first) h
    obtain ⟨hfirst, hbefore⟩ := lookup_of_unregister hlookup
    refine ⟨?_, hbefore⟩
    rw [List.mem_cons]
    rintro (heq | hmem)
    · exact hfirst heq
    · exact hothers hmem

variable [CommandSet κ]

/-- The table comes from the core table by taking commands away, among them those that write
temporaries. -/
def ReadsOnly (t : CommandTable κ) : Prop :=
  ∃ (name : String) (taken : List UInt8), Opcode.setTemp.toByte ∈ taken ∧
    Opcode.storeTemp.toByte ∈ taken ∧ t = (derive name .core).edits (taken.map .unregister)

theorem ReadsOnly.untouched [Handlers κ] [CoreHandlers κ] {t : CommandTable κ} (h : t.ReadsOnly)
    {opcode : UInt8} {command : κ} (hlookup : t.lookup opcode = .ok command) :
    ∀ part ∈ [Part.table, .temporaries], ∀ m : Machine κ,
      m.AgreeIn ((Handlers.handle command).run m).machine part := by
  obtain ⟨name, taken, hset, hstore, rfl⟩ := h
  obtain ⟨htaken, hderived⟩ := lookup_of_unregister_all hlookup
  have hcore : (core : CommandTable κ).lookup opcode = .ok command := hderived
  obtain ⟨op, rfl, rfl⟩ := eq_core_of_lookup hcore
  have htable : .table ∉ op.touched := Opcode.setup_untouched (by simp) op
  have htemporaries : .temporaries ∉ op.touched := by
    intro htouched
    rcases Opcode.eq_of_temporaries_touched htouched with rfl | rfl
    · exact htaken hset
    · exact htaken hstore
  intro part hpart
  simp only [List.mem_cons, List.not_mem_nil, or_false] at hpart
  rcases hpart with rfl | rfl
  · exact Action.agreeIn_core htable
  · exact Action.agreeIn_core htemporaries

end CommandTable

variable [CommandSet κ] [Handlers κ] [CoreHandlers κ]

theorem Action.kept_of_readsOnly {m : Machine κ} (h : m.table.ReadsOnly) :
    (step.run m).machine.temporaries = m.temporaries ∧ (step.run m).machine.table = m.table := by
  have hkept : ∀ part ∈ [Part.table, .temporaries], m.AgreeIn (step.run m).machine part :=
    agreeIn_step (by simp [Part.OfStep]) (by simp) fun _ _ hlookup ↦ h.untouched hlookup
  exact ⟨hkept .temporaries (by simp), hkept .table (by simp)⟩

/-! ## Next to a context that only reads -/

namespace Host

variable {side : Side} {h h' : Host κ}

theorem found_of_readsOnly (hother : (h.context side.other).table.ReadsOnly) :
    h.found side = h.machine side := by
  rcases side with _ | _
  · have hkept : (Action.step.run (h.machine .level)).machine.temporaries = h.temporaries :=
      (Action.kept_of_readsOnly hother).1
    change ({ h.primary with
      temporaries := (Action.step.run (h.machine .level)).machine.temporaries } : Machine κ) = _
    rw [hkept]
    rfl
  · rfl

theorem temporaries_tick_of_readsOnly (hother : (h.context side.other).table.ReadsOnly) :
    h.tick.state.temporaries = (Action.step.run (h.machine side)).machine.temporaries := by
  rcases side with _ | _
  · rw [← found_of_readsOnly hother]
    rfl
  · -- The primary context is stepped last, on the temporaries that the level context has left.
    have hlast : h.tick.state.temporaries =
        (Action.step.run (h.found .primary)).machine.temporaries := rfl
    rw [hlast, (Action.kept_of_readsOnly (m := h.found .primary) hother).1]
    rfl

theorem readsOnly_tick (hside : (h.context side).table.ReadsOnly) :
    (h.tick.state.context side).table.ReadsOnly := by
  have hfound : (h.found side).table.ReadsOnly := by
    rw [toContext_found]
    exact hside
  rw [context_tick, (Action.kept_of_readsOnly hfound).2]
  exact hfound

/-- Two hosts with the same context on a side and the same temporaries, and on the other side any
contexts that only read. -/
structure Alike (side : Side) (h h' : Host κ) : Prop where
  /-- The context of the side is the same. -/
  context : h.context side = h'.context side
  /-- The temporaries are the same. -/
  temporaries : h.temporaries = h'.temporaries
  /-- The other context of the first host only reads. -/
  readsOnly : (h.context side.other).table.ReadsOnly
  /-- The other context of the second host only reads. -/
  readsOnly' : (h'.context side.other).table.ReadsOnly

namespace Alike

omit [Handlers κ] [CoreHandlers κ] in
theorem machine (halike : Alike side h h') : h.machine side = h'.machine side := by
  rw [Host.machine, Host.machine, halike.context, halike.temporaries]

theorem tick (halike : Alike side h h') :
    h.tick.answer.result side = h'.tick.answer.result side ∧
      Alike side h.tick.state h'.tick.state := by
  have hfound : h.found side = h'.found side := by
    rw [found_of_readsOnly halike.readsOnly, found_of_readsOnly halike.readsOnly', halike.machine]
  refine ⟨?_, ?_, ?_, readsOnly_tick halike.readsOnly, readsOnly_tick halike.readsOnly'⟩
  · rw [result_tick, result_tick, hfound]
  · rw [context_tick, context_tick, hfound]
  · rw [temporaries_tick_of_readsOnly halike.readsOnly,
      temporaries_tick_of_readsOnly halike.readsOnly', halike.machine]

theorem ticked (halike : Alike side h h') (count : Nat) :
    (h.reports count).map (·.result side) = (h'.reports count).map (·.result side) ∧
      Alike side (h.ticked count) (h'.ticked count) := by
  induction count generalizing h h' with
  | zero => exact ⟨rfl, halike⟩
  | succ count ih =>
    obtain ⟨hresult, hnext⟩ := halike.tick
    obtain ⟨hresults, hlast⟩ := ih hnext
    refine ⟨?_, hlast⟩
    rw [reports, reports, List.map_cons, List.map_cons, hresult, hresults]

end Alike

/-! ## The order of a tick -/

/-- A tick that steps the primary context first. -/
def tickPrimaryFirst (h : Host κ) : Logged (Host κ) TickReport :=
  let primary := h.onPrimary Action.step
  let level := primary.state.onLevel Action.step
  let report : TickReport := ⟨h.ticks + 1, level.answer, primary.answer⟩
  { answer := report
    state := { level.state with
      ticks := report.tick
      faults := h.faults + (isFault report.level).toUInt64 + (isFault report.primary).toUInt64 }
    log := primary.log ++ level.log ++ tickLog report }

/-- Contexts that only read do not notice which of them is stepped first. -/
theorem tickPrimaryFirst_of_readsOnly (hprimary : h.primary.table.ReadsOnly)
    (hlevel : h.level.table.ReadsOnly) :
    h.tickPrimaryFirst.answer = h.tick.answer ∧ h.tickPrimaryFirst.state = h.tick.state := by
  have hfirst : (Action.step.run h.primaryMachine).machine.temporaries = h.temporaries :=
    (Action.kept_of_readsOnly (m := h.primaryMachine) hprimary).1
  have hsecond : (Action.step.run h.levelMachine).machine.temporaries = h.temporaries :=
    (Action.kept_of_readsOnly (m := h.levelMachine) hlevel).1
  -- Either order steps both contexts on the temporaries that the tick began with.
  simp only [primaryMachine, levelMachine] at hfirst hsecond
  simp only [tickPrimaryFirst, tick, onLevel, onPrimary, primaryMachine, levelMachine, hfirst,
    hsecond, and_self]

end Host

/-- **The contexts of a host meet only in the temporaries.** Next to any context that cannot write
them, the context of either side answers alike tick by tick, and it and the temporaries come out
alike. When neither context can write, a tick may step them in either order. -/
theorem contexts_meet_in_temporaries :
    (∀ (side : Side) (h h' : Host κ), h.context side = h'.context side →
      h.temporaries = h'.temporaries → (h.context side.other).table.ReadsOnly →
      (h'.context side.other).table.ReadsOnly → ∀ count,
        (h.reports count).map (·.result side) = (h'.reports count).map (·.result side) ∧
        (h.ticked count).context side = (h'.ticked count).context side ∧
        (h.ticked count).temporaries = (h'.ticked count).temporaries) ∧
    ∀ h : Host κ, h.primary.table.ReadsOnly → h.level.table.ReadsOnly →
      h.tickPrimaryFirst.answer = h.tick.answer ∧ h.tickPrimaryFirst.state = h.tick.state := by
  refine ⟨?_, fun h hprimary hlevel ↦ Host.tickPrimaryFirst_of_readsOnly hprimary hlevel⟩
  intro side h h' hcontext htemporaries hother hother' count
  have halike : Host.Alike side h h' := ⟨hcontext, htemporaries, hother, hother'⟩
  obtain ⟨hresults, hlast⟩ := halike.ticked count
  exact ⟨hresults, hlast.context, hlast.temporaries⟩

/-- The core table without the commands that write temporaries. -/
def readingTable : CommandTable Opcode :=
  (CommandTable.derive "reading" .core).edits [.unregister 0x0f, .unregister 0x11]

/-- A host whose contexts run scripts, the level context under the table that only reads. -/
def readingHost (table : CommandTable Opcode) (primary level : List UInt8) : Host Opcode :=
  { primary := { name := "primary", table := table, activity := .script ⟨.ofBytes 0 primary, 0⟩ }
    level := { name := "level", table := readingTable, activity := .script ⟨.ofBytes 1 level, 0⟩ } }

/-- Writes a temporary and reads it back into a bank. -/
def writingBytes : List UInt8 := [0x0f, 0x00, 0x80, 0x05, 0x00, 0x10, 0x01, 0x00, 0x80]

/-- Reads a temporary over and over. -/
def pollingBytes : List UInt8 := [0x10, 0x00, 0x00, 0x80, 0x04, 0x00, 0x00, 0x00, 0x00]

/-- Whether the level context keeps reading or is stopped at once, for it tries to write, the
primary context goes through the same ticks; and two contexts that only read may be stepped in
either order. -/
theorem contexts_meet_in_temporaries_beside_fault :
    let busy := readingHost .core writingBytes pollingBytes
    let faulty := readingHost .core writingBytes writingBytes
    let reading := readingHost readingTable [0x10, 0x01, 0x01, 0x80] pollingBytes
    isRunning busy.tick.answer.level = true ∧ isFault faulty.tick.answer.level = true ∧
      busy.tick.state.temporaries.get 0x8000 = .ok 5 ∧
      (busy.reports 3).map (·.result .primary) = (faulty.reports 3).map (·.result .primary) ∧
      (busy.ticked 3).context .primary = (faulty.ticked 3).context .primary ∧
      (busy.ticked 3).temporaries = (faulty.ticked 3).temporaries ∧
      reading.tickPrimaryFirst.state = reading.tick.state := by
  intro busy faulty reading
  have hreads : readingTable.ReadsOnly := ⟨"reading", [0x0f, 0x11], by decide, by decide, rfl⟩
  obtain ⟨hsides, horder⟩ := contexts_meet_in_temporaries (κ := Opcode)
  have hthree := hsides .primary busy faulty rfl rfl hreads hreads 3
  exact ⟨rfl, rfl, rfl, hthree.1, hthree.2.1, hthree.2.2, (horder reading hreads hreads).2⟩

end EventScript
