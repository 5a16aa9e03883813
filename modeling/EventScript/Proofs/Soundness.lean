import EventScript.Config
import EventScript.Proofs.Nesting

/-!
# Soundness of contexts

Whatever is done to a context from its creation on, its call stack stays within its room, its
cursors stay in their scripts, nothing is parked while a script runs, and a step can always make at
least one dispatch unit. None of the operations checks the third of these: parking overwrites what
was parked before, and only the invariant says that there was nothing.

## Whose cursors

A host or a command may bring a cursor of its own to a call or a jump. Such a cursor comes from a
script, which gives out no place beyond its end, or from the context itself. A request is therefore
*admissible* when the cursor it brings is in bounds, and a handler is admissible when it only makes
admissible requests, given that the cursors it was answered with are in bounds.
-/

namespace EventScript

variable {κ α : Type}

/-- The cursors that a context holds: its place, the parked one and the return addresses. -/
def Context.cursors (c : Context κ) : List Cursor :=
  c.position?.toList ++ c.parked.toList ++ c.callStack

theorem Context.mem_cursors_iff {c : Context κ} {cursor : Cursor} :
    cursor ∈ c.cursors ↔
      c.activity = .script cursor ∨ c.parked = some cursor ∨ cursor ∈ c.callStack := by
  have hposition : c.position? = some cursor ↔ c.activity = .script cursor := by
    unfold position?
    cases c.activity <;> simp
  simp only [cursors, List.mem_append, Option.mem_toList, hposition, or_assoc]

/-- What holds of every context in use. -/
structure Context.Sound (c : Context κ) : Prop where
  /-- There is room for the return addresses. -/
  depth_le : c.depth ≤ stackCapacity
  /-- Every cursor lies in its script or at its end. -/
  inBounds : ∀ cursor ∈ c.cursors, cursor.InBounds
  /-- Nothing is parked while a script runs. -/
  parked_eq_none : c.mode = .normal → c.parked = none
  /-- A step can make a dispatch unit. -/
  budget_pos : 1 ≤ c.budget

/-! ## Cursors given out by scripts -/

/-- A cursor that a script gives out, at its start or at an offset. -/
inductive Cursor.Given : Cursor → Prop where
  /-- The first byte of a script. -/
  | start (s : Script) : Given s.start
  /-- A place of a script. -/
  | cursorAt {s : Script} {offset : Nat} {c : Cursor} (h : s.cursorAt offset = .ok c) : Given c
  /-- Another place of the script of a cursor. -/
  | withOffset {d : Cursor} {offset : Nat} {c : Cursor} (h : d.withOffset offset = .ok c) : Given c

/-- The cursors that scripts give out are those in bounds. -/
theorem Cursor.given_iff_inBounds {c : Cursor} : c.Given ↔ c.InBounds := by
  constructor
  · rintro (s | h | h)
    · exact inBounds_start s
    · exact (cursorAt_eq_ok_iff.mp h).2
    · exact (cursorAt_eq_ok_iff.mp h).2
  · intro h
    have hplace : c.script.cursorAt c.offset = .ok c := cursorAt_eq_ok_iff.mpr ⟨rfl, h⟩
    exact .cursorAt hplace

namespace Request

/-- The cursor that the request brings, if any, was given out by a script. -/
def Admissible : Request κ → Prop
  | call target | jump target => target.Given
  | _ => True

/-- The cursors in the answer to the request are in bounds. -/
def Trusted : (r : Request κ) → Except Fault r.Answer → Prop
  | look, .ok context => ∀ cursor ∈ context.cursors, cursor.InBounds
  | readTarget, .ok target => target.InBounds
  | _, _ => True

end Request

/-- The handler makes only admissible requests, whatever trusted answers it gets. -/
def Handler.Admissible : Handler κ α → Prop
  | done _ | fail _ => True
  | ask request next =>
    request.Admissible ∧ ∀ answer, request.Trusted answer → (next answer).Admissible
  | step next | stepOnce next => ∀ answer, (next answer).Admissible

/-! ## What the operations keep -/

namespace Context.Sound

variable {c d : Context κ}

/-- Only the activity, the parked cursor, the call stack and the budget matter. -/
theorem of_eq (h : c.Sound) (hactivity : d.activity = c.activity) (hparked : d.parked = c.parked)
    (hstack : d.callStack = c.callStack) (hbudget : d.budget = c.budget) : d.Sound where
  depth_le := by
    rw [depth, hstack]
    exact h.depth_le
  inBounds := by
    intro cursor hcursor
    rw [mem_cursors_iff, hactivity, hparked, hstack, ← mem_cursors_iff] at hcursor
    exact h.inBounds cursor hcursor
  parked_eq_none := by
    intro hmode
    rw [mode, hactivity] at hmode
    rw [hparked]
    exact h.parked_eq_none hmode
  budget_pos := by
    rw [hbudget]
    exact h.budget_pos

theorem inBounds_of_activity (h : c.Sound) {cursor : Cursor} (hc : c.activity = .script cursor) :
    cursor.InBounds :=
  h.inBounds cursor (mem_cursors_iff.mpr (.inl hc))

theorem inBounds_of_parked (h : c.Sound) {cursor : Cursor} (hc : c.parked = some cursor) :
    cursor.InBounds :=
  h.inBounds cursor (mem_cursors_iff.mpr (.inr (.inl hc)))

theorem inBounds_of_mem (h : c.Sound) {cursor : Cursor} (hc : cursor ∈ c.callStack) :
    cursor.InBounds :=
  h.inBounds cursor (mem_cursors_iff.mpr (.inr (.inr hc)))

theorem parked_of_activity (h : c.Sound) {cursor : Cursor} (hc : c.activity = .script cursor) :
    c.parked = none :=
  h.parked_eq_none (by rw [mode, hc]; rfl)

theorem running (h : c.Sound) {cursor : Cursor} {stack : List Cursor} (hparked : c.parked = none)
    (hcursor : cursor.InBounds) (hdepth : stack.length ≤ stackCapacity)
    (hstack : ∀ entry ∈ stack, entry.InBounds) :
    { c with activity := .script cursor, callStack := stack }.Sound where
  depth_le := hdepth
  inBounds := by
    intro entry hentry
    rcases mem_cursors_iff.mp hentry with hentry | hentry | hentry
    · cases hentry
      exact hcursor
    · exact h.inBounds_of_parked hentry
    · exact hstack entry hentry
  parked_eq_none := fun _ ↦ hparked
  budget_pos := h.budget_pos

theorem movedTo (h : c.Sound) {cursor : Cursor} (hparked : c.parked = none)
    (hcursor : cursor.InBounds) : { c with activity := .script cursor }.Sound :=
  h.running hparked hcursor h.depth_le fun _ ↦ h.inBounds_of_mem

theorem resting (h : c.Sound) {activity : Activity} {parked : Option Cursor}
    (hactivity : activity.mode ≠ .normal) (hparked : ∀ cursor ∈ parked, cursor.InBounds) :
    { c with activity := activity, parked := parked }.Sound where
  depth_le := h.depth_le
  inBounds := by
    intro entry hentry
    rcases mem_cursors_iff.mp hentry with hentry | hentry | hentry
    · exact absurd (congrArg Activity.mode hentry) hactivity
    · exact hparked entry hentry
    · exact h.inBounds_of_mem hentry
  parked_eq_none := fun hmode ↦ absurd hmode hactivity
  budget_pos := h.budget_pos

theorem halted (h : c.Sound) : c.halted.Sound := h.resting nofun nofun

theorem cleared (h : c.Sound) (table : CommandTable κ) : (c.cleared table).Sound where
  depth_le := Nat.zero_le _
  inBounds := by
    intro entry hentry
    rcases mem_cursors_iff.mp hentry with hentry | hentry | hentry
    · exact h.inBounds_of_activity hentry
    · cases hentry
    · cases hentry
  parked_eq_none := fun _ ↦ rfl
  budget_pos := h.budget_pos

end Context.Sound

namespace Action

open Context

/-- An action that keeps machines sound. -/
abbrev KeepsSound (a : Action κ α) : Prop := Preserves (fun m ↦ m.Sound) a

theorem keepsSound_start (script : Script) (table : CommandTable κ) :
    KeepsSound (start script table) := by
  intro m hm
  unfold start
  dsimp only
  split
  · exact (hm.cleared table).movedTo rfl (Cursor.inBounds_start script)
  · exact hm

theorem keepsSound_startNative (task : NativeTask) :
    KeepsSound (startNative task : Action κ Unit) := by
  intro m hm
  unfold startNative
  dsimp only
  split
  · exact (hm.cleared m.table).resting nofun nofun
  · exact hm

theorem keepsSound_resume : KeepsSound (resume : Action κ Unit) := by
  intro m hm
  unfold resume
  dsimp only
  split
  · exact hm
  · split
    case h_1 cursor hactivity hparked =>
      have hhalted : m.halted.Sound := hm.halted
      exact hhalted.movedTo rfl (hm.inBounds_of_parked hparked)
    case h_2 => exact hm

theorem keepsSound_stop : KeepsSound (stop : Action κ Unit) := fun _ hm ↦ hm.halted

theorem keepsSound_runNative (task : NativeTask) :
    KeepsSound (runNative task : Action κ Unit) := by
  intro m hm
  refine hm.resting nofun ?_
  intro cursor hcursor
  cases hactivity : m.activity with
  | script place =>
    rw [hactivity] at hcursor
    cases hcursor
    exact hm.inBounds_of_activity hactivity
  | paused | native _ =>
    rw [hactivity] at hcursor
    exact hm.inBounds_of_parked hcursor

theorem keepsSound_call {target : Cursor} (htarget : target.InBounds) :
    KeepsSound (call target : Action κ Unit) := by
  intro m hm
  unfold call
  dsimp only
  split
  case h_1 cursor hactivity =>
    split
    case isTrue hroom =>
      refine hm.running (hm.parked_of_activity hactivity) htarget hroom ?_
      intro entry hentry
      rcases List.mem_cons.mp hentry with rfl | hentry
      · exact hm.inBounds_of_activity hactivity
      · exact hm.inBounds_of_mem hentry
    case isFalse => exact hm
  case h_2 => exact hm

theorem keepsSound_ret : KeepsSound (ret : Action κ Unit) := by
  intro m hm
  unfold ret
  dsimp only
  split
  case h_1 cursor rest hactivity hstack =>
    -- A running script has nothing parked, which is what makes the activity safe to replace.
    have hdepth : rest.length + 1 ≤ stackCapacity := by
      have h := hm.depth_le
      rwa [depth, hstack] at h
    refine hm.running (hm.parked_of_activity hactivity) ?_ (by omega) ?_
    · exact hm.inBounds_of_mem (by rw [hstack]; exact List.mem_cons_self)
    · intro entry hentry
      exact hm.inBounds_of_mem (by rw [hstack]; exact List.mem_cons_of_mem _ hentry)
  case h_2 => exact hm
  case h_3 => exact hm

theorem keepsSound_jump {target : Cursor} (htarget : target.InBounds) :
    KeepsSound (jump target : Action κ Unit) := by
  intro m hm
  unfold jump
  dsimp only
  split
  case h_1 cursor hactivity => exact hm.movedTo (hm.parked_of_activity hactivity) htarget
  case h_2 => exact hm

/-- A reader that never leaves the script it reads keeps machines sound. -/
theorem keepsSound_readWith {operation : String} {read : Cursor → Except Fault (α × Cursor)}
    (hread : ∀ c value next, c.InBounds → read c = .ok (value, next) → next.InBounds) :
    KeepsSound (readWith operation read : Action κ α) := by
  intro m hm
  unfold readWith
  dsimp only
  split
  case h_1 cursor hactivity =>
    have hcursor : cursor.InBounds := hm.inBounds_of_activity hactivity
    split
    case h_1 value next hnext =>
      exact hm.movedTo (hm.parked_of_activity hactivity) (hread cursor value next hcursor hnext)
    case h_2 => exact hm
  case h_2 => exact hm

end Action

namespace Cursor

theorem inBounds_of_read {c next : Cursor} {width : Nat} {f : List UInt8 → α} {value : α}
    (hc : c.InBounds)
    (h : (do let (bytes, d) ← c.read width; return (f bytes, d)) = Except.ok (value, next)) :
    next.InBounds := by
  cases hread : c.read width with
  | error e =>
    rw [hread] at h
    cases h
  | ok found =>
    obtain ⟨bytes, d⟩ := found
    rw [hread] at h
    cases h
    obtain ⟨hroom, -, rfl⟩ := read_eq_ok_iff.mp hread
    exact inBounds_advance hc hroom

theorem inBounds_of_readU8 {c next : Cursor} {value : UInt8} (hc : c.InBounds)
    (h : c.readU8 = .ok (value, next)) : next.InBounds :=
  inBounds_of_read (f := fun bytes ↦ UInt8.ofNat (Bytes.toNat bytes)) hc h

end Cursor

namespace Action

theorem keepsSound_readTarget : KeepsSound (readTarget : Action κ Cursor) := by
  intro m hm
  unfold readTarget
  dsimp only
  split
  case h_1 cursor hactivity =>
    split
    case h_1 => exact hm
    case h_2 address next hread =>
      have hnext : next.InBounds :=
        Cursor.inBounds_of_read (hm.inBounds_of_activity hactivity) hread
      exact hm.movedTo (hm.parked_of_activity hactivity) hnext
  case h_2 => exact hm

end Action

namespace Request

open EventScript.Action

/-- **Every admissible request keeps machines sound.** -/
theorem keepsSound {r : Request κ} (hr : r.Admissible) : KeepsSound r.perform := by
  cases r with
  | start script table => exact keepsSound_start script table
  | startNative task => exact keepsSound_startNative task
  | resume => exact keepsSound_resume
  | stop => exact keepsSound_stop
  | runNative task => exact keepsSound_runNative task
  | call target => exact keepsSound_call (Cursor.given_iff_inBounds.mp hr)
  | ret => exact keepsSound_ret
  | jump target => exact keepsSound_jump (Cursor.given_iff_inBounds.mp hr)
  | readU8 => exact keepsSound_readWith fun _ _ _ ↦ Cursor.inBounds_of_readU8
  | readU16 => exact keepsSound_readWith fun _ _ _ ↦ Cursor.inBounds_of_read
  | readU32 => exact keepsSound_readWith fun _ _ _ ↦ Cursor.inBounds_of_read
  | readTarget => exact keepsSound_readTarget
  | readBank bank =>
    intro m hm
    simp only [perform, Action.readBank]
    split
    · exact hm
    · exact hm
  | writeBank bank value =>
    intro m hm
    simp only [perform, Action.writeBank]
    split
    · exact hm.of_eq rfl rfl rfl rfl
    · exact hm
  | writeTemporary id value =>
    intro m hm
    simp only [perform, Action.writeTemporary]
    split
    · exact hm
    · exact hm
  | look | readTemporary id => exact fun m hm ↦ hm
  | setTable _ | swapTable _ | setComparison _ | setEnabled _ | setInputControl _ | setDirection _
  | setPolicy _ => exact fun m hm ↦ hm.of_eq rfl rfl rfl rfl

theorem trusted (r : Request κ) {m : Machine κ} (hm : m.Sound) :
    r.Trusted (r.perform.run m).result := by
  cases r with
  | look => exact hm.inBounds
  | readTarget =>
    simp only [perform, Action.readTarget]
    split
    case h_1 cursor _ =>
      split
      case h_1 => trivial
      case h_2 address next _ =>
        by_cases htarget : address.toNat ≤ cursor.script.length
        · rw [if_pos htarget]
          exact htarget
        · rw [if_neg htarget]
          trivial
    case h_2 => trivial
  | _ => trivial

end Request

/-! ## The core commands -/

namespace Handler

theorem admissible_send {r : Request κ} {f : r.Answer → Program κ α} (hr : r.Admissible)
    (hf : ∀ a, r.Trusted (.ok a) → (ofProgram (f a)).Admissible) :
    (ofProgram (Program.send r >>= f)).Admissible := by
  refine ⟨hr, ?_⟩
  rintro (e | a) hanswer
  · trivial
  · exact hf a hanswer

theorem admissible_bind {β : Type} {p : Program κ α} {f : α → Program κ β}
    (hp : (ofProgram p).Admissible) (hf : ∀ a, (ofProgram (f a)).Admissible) :
    (ofProgram (p >>= f)).Admissible := by
  induction p with
  | done a => exact hf a
  | fail e => trivial
  | ask request next ih => exact ⟨hp.1, fun answer hanswer ↦ ih answer (hp.2 answer hanswer)⟩

theorem admissible_readCondition :
    (ofProgram (Command.readCondition : Program κ Condition)).Admissible := by
  refine admissible_send trivial fun context _ ↦ admissible_send trivial fun code _ ↦ ?_
  cases Condition.ofByte code <;> trivial

/-- **The core commands are admissible.** The only cursors they bring are addresses they have
read. -/
theorem admissible_core (op : Opcode) :
    (ofProgram (Command.core op : Program κ Verdict)).Admissible := by
  cases op with
  | nop | wait => trivial
  | stop | ret | lockInput => exact admissible_send trivial fun _ _ ↦ trivial
  | releaseInput | face =>
    exact admissible_send trivial fun _ _ ↦ admissible_send trivial fun _ _ ↦ trivial
  | call | goto =>
    refine admissible_send trivial fun target htarget ↦ ?_
    exact admissible_send (Cursor.given_iff_inBounds.mpr htarget) fun _ _ ↦ trivial
  | gotoIf | callIf =>
    refine admissible_bind admissible_readCondition fun condition ↦ ?_
    refine admissible_send trivial fun target htarget ↦ ?_
    refine admissible_bind (admissible_send trivial fun _ _ ↦ trivial) fun taken ↦ ?_
    cases taken with
    | false => trivial
    | true => exact admissible_send (Cursor.given_iff_inBounds.mpr htarget) fun _ _ ↦ trivial
  | loadBank | setTemp =>
    refine admissible_send trivial fun _ _ ↦ admissible_send trivial fun _ _ ↦ ?_
    exact admissible_send trivial fun _ _ ↦ trivial
  | compareBank | addBank | copyBank | loadTemp | storeTemp =>
    refine admissible_send trivial fun _ _ ↦ admissible_send trivial fun _ _ ↦ ?_
    exact admissible_send trivial fun _ _ ↦ admissible_send trivial fun _ _ ↦ trivial

end Handler

/-! ## Handlers, steps and runs -/

namespace Action

theorem keepsSound_perform {inner : Stepping κ} (hstep : KeepsSound inner.step)
    (honce : KeepsSound inner.stepOnce) {p : Handler κ α} (hp : p.Admissible) :
    KeepsSound (p.perform inner) := by
  induction p with
  | done a => exact fun m hm ↦ hm
  | fail e => exact fun m hm ↦ hm
  | ask request next ih =>
    intro m hm
    exact ih _ (hp.2 _ (request.trusted hm)) _ (Request.keepsSound hp.1 m hm)
  | step next ih => exact hstep.andThen fun answer ↦ ih answer (hp answer)
  | stepOnce next ih => exact honce.andThen fun answer ↦ ih answer (hp answer)

theorem stableUnderStep_sound : StableUnderStep (fun m : Machine κ ↦ m.Sound) where
  fetch := keepsSound_readWith fun _ _ _ ↦ Cursor.inBounds_of_readU8
  park := by
    intro m hm
    unfold park
    dsimp only
    split
    case h_1 cursor hactivity =>
      refine hm.resting nofun ?_
      rintro _ ⟨⟩
      exact hm.inBounds_of_activity hactivity
    case h_2 => exact hm
  stop := keepsSound_stop
  fault := fun e m hm ↦ hm.halted.of_eq rfl rfl rfl rfl
  poll := by
    intro task m _ hm
    unfold pollNative
    split
    · exact hm.resting nofun fun _ ↦ hm.inBounds_of_parked
    · exact hm.resting nofun fun _ ↦ hm.inBounds_of_parked

theorem keepsSound_nested {handler : κ → Handler κ Verdict}
    (hhandler : ∀ command, (handler command).Admissible) (depth : Nat) :
    KeepsSound (nested handler ⟨return .idle, return .idle⟩ depth).step ∧
      KeepsSound (nested handler ⟨return .idle, return .idle⟩ depth).stepOnce := by
  induction depth with
  | zero => exact ⟨fun m hm ↦ hm, fun m hm ↦ hm⟩
  | succ depth ih =>
    let _commands := Handlers.ofHandler handler (nested handler ⟨return .idle, return .idle⟩ depth)
    -- The steps that these commands make are those of the level below.
    have hcommands : CommandsPreserve (fun m : Machine κ ↦ m.Sound) := by
      intro m _ command hm _ _
      exact keepsSound_perform ih.1 ih.2 (hhandler command) m hm
    exact ⟨stableUnderStep_sound.step hcommands, stableUnderStep_sound.stepUpTo hcommands 1⟩

end Action

/-- The machines that can come about from a fresh or configured context, when the host performs
admissible requests and steps in any order and any set of temporaries may be bound. -/
inductive Reachable [CommandSet κ] (handler : κ → Handler κ Verdict) : Machine κ → Prop where
  /-- A context with nothing configured. -/
  | new (name : String) (temporaries : Temporaries) :
    Reachable handler { Context.new name with temporaries := temporaries }
  /-- A context with the given settings. -/
  | ofConfig (name : String) (config : ContextConfig) (temporaries : Temporaries) :
    Reachable handler { Context.ofConfig name config with temporaries := temporaries }
  /-- The temporaries are another set now, or another context has written to them. -/
  | share {m : Machine κ} (temporaries : Temporaries) :
    Reachable handler m → Reachable handler { m with temporaries := temporaries }
  /-- The host performs a request. -/
  | request {m : Machine κ} (r : Request κ) :
    r.Admissible → Reachable handler m → Reachable handler (r.perform.run m).machine
  /-- The host steps the context. -/
  | step {m : Machine κ} {reply : Reply κ StepOutcome} :
    ComesTo handler Stepping.step m reply → Reachable handler m → Reachable handler reply.machine
  /-- The host makes a dispatch unit. -/
  | stepOnce {m : Machine κ} {reply : Reply κ StepOutcome} :
    ComesTo handler Stepping.stepOnce m reply → Reachable handler m →
      Reachable handler reply.machine

/-- What holds of new contexts and survives admissible requests and steps holds of every machine
that can come about. Steps may be taken above a bottom that does nothing. -/
theorem Reachable.invariant [CommandSet κ] {handler : κ → Handler κ Verdict} {P : Machine κ → Prop}
    (hnew : ∀ name temporaries, P { Context.new name with temporaries := temporaries })
    (hconfig : ∀ name config temporaries,
      P { Context.ofConfig name config with temporaries := temporaries })
    (hshare : ∀ (m : Machine κ) temporaries, P m → P { m with temporaries := temporaries })
    (hrequest : ∀ r : Request κ, r.Admissible → Action.Preserves P r.perform)
    (hstep : ∀ depth, Action.Preserves P (nested handler ⟨return .idle, return .idle⟩ depth).step ∧
      Action.Preserves P (nested handler ⟨return .idle, return .idle⟩ depth).stepOnce)
    {m : Machine κ} (h : Reachable handler m) : P m := by
  induction h with
  | new name temporaries => exact hnew name temporaries
  | ofConfig name config temporaries => exact hconfig name config temporaries
  | share temporaries _ ih => exact hshare _ temporaries ih
  | request r hr _ ih => exact hrequest r hr _ ih
  | step hreply _ ih =>
    obtain ⟨depth, hdepth⟩ := hreply
    rw [← hdepth ⟨return .idle, return .idle⟩]
    exact (hstep depth).1 _ ih
  | stepOnce hreply _ ih =>
    obtain ⟨depth, hdepth⟩ := hreply
    rw [← hdepth ⟨return .idle, return .idle⟩]
    exact (hstep depth).2 _ ih

theorem Context.sound_new [CommandSet κ] (name : String) :
    (Context.new name : Context κ).Sound where
  depth_le := Nat.zero_le _
  inBounds := by
    intro cursor hcursor
    cases hcursor
  parked_eq_none := fun _ ↦ rfl
  budget_pos := show 1 ≤ defaultBudget by decide

theorem Context.sound_ofConfig [CommandSet κ] (name : String) (config : ContextConfig) :
    (Context.ofConfig name config : Context κ).Sound where
  depth_le := Nat.zero_le _
  inBounds := by
    intro cursor hcursor
    cases hcursor
  parked_eq_none := fun _ ↦ rfl
  budget_pos := Nat.le_max_left 1 config.budget

theorem Reachable.sound [CommandSet κ] {handler : κ → Handler κ Verdict} {m : Machine κ}
    (hhandler : ∀ command, (handler command).Admissible) (h : Reachable handler m) : m.Sound :=
  h.invariant (P := fun m ↦ m.Sound) (fun name _ ↦ Context.sound_new name)
    (fun name config _ ↦ Context.sound_ofConfig name config) (fun _ _ hm ↦ hm)
    (fun _ hr ↦ Request.keepsSound hr) (Action.keepsSound_nested hhandler)

/-- **Soundness.** Every machine that can come about is sound, whatever the host does and whatever
the commands do, as long as their cursors come from scripts. -/
theorem sound_of_reachable [CommandSet κ] {handler : κ → Handler κ Verdict} {m : Machine κ}
    (hhandler : ∀ command, (handler command).Admissible) (h : Reachable handler m) : m.Sound :=
  h.sound hhandler

/-- The core commands, except that `nop` dispatches the instruction behind it before it ends. -/
def draggingHandler : Opcode → Handler Opcode Verdict
  | .nop => .stepOnce fun _ ↦ .done .proceed
  | op => .ofProgram (Command.core op)

/-- A `nop` in front of a `wait`, about to be dispatched. -/
def draggingStart : Machine Opcode :=
  (Action.run (.start (.ofBytes 0 [0x00, 0x0b]) .core) (.new "primary")).machine

/-- The script is suspended from inside the step of the `nop`. -/
theorem sound_of_reachable_dragging :
    ∃ reply, ComesTo draggingHandler Stepping.step draggingStart reply ∧
      reply.machine.parked = some ⟨.ofBytes 0 [0x00, 0x0b], 2⟩ ∧ reply.machine.Sound := by
  have hhandler : ∀ op, (draggingHandler op).Admissible := by
    intro op
    cases op with
    | nop => exact fun _ ↦ trivial
    | _ => exact Handler.admissible_core _
  have hstart : Reachable draggingHandler draggingStart :=
    .request (.start (.ofBytes 0 [0x00, 0x0b]) .core) trivial (.new "primary" .zero)
  have hreply : ComesTo draggingHandler Stepping.step draggingStart
      ((nested draggingHandler ⟨return .idle, return .idle⟩ 2).step.run draggingStart) :=
    ⟨2, fun _ ↦ rfl⟩
  exact ⟨_, hreply, rfl, sound_of_reachable hhandler (.step hreply hstart)⟩

end EventScript
