import EventScript.Proofs.Dispatch

/-!
# What the core commands ask for

The core commands read operands, move about in the script and change variables. They never start or
resume anything, hand over to a native task, bind another table, or touch the switches that say
whether and how far the context steps. Requests of that kind are called *ordinary*, and most of what
holds of every core command at once follows from its requests being ordinary.

## Two machines at once

Some facts compare a run with the run of a machine that differs in a part no command looks at. For a
change `f` of contexts, a program is `Blind` to `f` if it goes on in the same way after a look at
the changed context. If in addition its requests commute with `f`, so does the whole program.
-/

namespace EventScript

variable {κ α β : Type}

namespace Program

/-- Every request that the program may come to make has the property. -/
def All (P : Request κ → Prop) : Program κ α → Prop
  | done _ | fail _ => True
  | ask request next => P request ∧ ∀ answer, (next answer).All P

variable {P : Request κ → Prop}

theorem all_send_bind {r : Request κ} {f : r.Answer → Program κ β} (hr : P r)
    (hf : ∀ a, (f a).All P) : (send r >>= f).All P := by
  refine ⟨hr, ?_⟩
  rintro (e | a)
  · trivial
  · exact hf a

theorem all_bind {p : Program κ α} {f : α → Program κ β} (hp : p.All P)
    (hf : ∀ a, (f a).All P) : (p >>= f).All P := by
  induction p with
  | done a => exact hf a
  | fail e => trivial
  | ask request next ih => exact ⟨hp.1, fun answer ↦ ih answer (hp.2 answer)⟩

theorem all_mono {Q : Request κ → Prop} {p : Program κ α} (hp : p.All P) (h : ∀ r, P r → Q r) :
    p.All Q := by
  induction p with
  | done a => trivial
  | fail e => trivial
  | ask request next ih => exact ⟨h request hp.1, fun answer ↦ ih answer (hp.2 answer)⟩

theorem preserves_of_all {I : Machine κ → Prop} {p : Program κ α} (hp : p.All P)
    (hI : ∀ r, P r → Action.Preserves I r.perform) : Action.Preserves I p.perform := by
  induction p with
  | done a => exact fun m hm ↦ hm
  | fail e => exact fun m hm ↦ hm
  | ask request next ih =>
    intro m hm
    exact ih _ (hp.2 _) _ (hI request hp.1 m hm)

end Program

/-- A request that leaves alone what the context runs with: it starts, resumes and hands over
nothing, and touches neither the table nor a switch. -/
def Request.Ordinary : Request κ → Prop
  | start _ _ | startNative _ | resume | runNative _ | setTable _ | swapTable _ | setEnabled _
  | setPolicy _ => False
  | _ => True

namespace Command

open Program

theorem all_readCondition : (readCondition : Program κ Condition).All Request.Ordinary := by
  refine all_send_bind trivial fun context ↦ all_send_bind trivial fun code ↦ ?_
  cases Condition.ofByte code <;> trivial

/-- **Core commands make ordinary requests.** -/
theorem all_core (op : Opcode) : (core op : Program κ Verdict).All Request.Ordinary := by
  cases op with
  | nop | wait => trivial
  | stop | ret | lockInput => exact all_send_bind trivial fun _ ↦ trivial
  | call | goto | releaseInput | face =>
    exact all_send_bind trivial fun _ ↦ all_send_bind trivial fun _ ↦ trivial
  | gotoIf | callIf =>
    refine all_bind all_readCondition fun condition ↦ all_send_bind trivial fun target ↦ ?_
    refine all_bind (all_send_bind trivial fun _ ↦ trivial) fun taken ↦ ?_
    cases taken with
    | false => trivial
    | true => exact all_send_bind trivial fun _ ↦ trivial
  | loadBank | setTemp =>
    refine all_send_bind trivial fun _ ↦ all_send_bind trivial fun _ ↦ ?_
    exact all_send_bind trivial fun _ ↦ trivial
  | compareBank | addBank | copyBank | loadTemp | storeTemp =>
    refine all_send_bind trivial fun _ ↦ all_send_bind trivial fun _ ↦ ?_
    exact all_send_bind trivial fun _ ↦ all_send_bind trivial fun _ ↦ trivial

end Command

/-! ## Verdicts -/

namespace Program

/-- The program ends with a value of the kind, or with a fault. -/
def Yields (P : α → Prop) : Program κ α → Prop
  | done a => P a
  | fail _ => True
  | ask _ next => ∀ answer, (next answer).Yields P

theorem yields_bind {P : β → Prop} {p : Program κ α} {f : α → Program κ β}
    (hf : ∀ a, (f a).Yields P) : (p >>= f).Yields P := by
  induction p with
  | done a => exact hf a
  | fail e => trivial
  | ask request next ih => exact fun answer ↦ ih answer

theorem of_yields {P : α → Prop} {p : Program κ α} (hp : p.Yields P) {m : Machine κ} {a : α}
    (h : (p.perform.run m).result = .ok a) : P a := by
  induction p generalizing m with
  | done b =>
    cases h
    exact hp
  | fail e => cases h
  | ask request next ih => exact ih _ (hp _) h

end Program

open Program in
/-- **Of the core commands only one asks to suspend.** -/
theorem Command.yields_core {op : Opcode} (hop : op ≠ .wait) :
    (core op : Program κ Verdict).Yields (· = .proceed) := by
  cases op with
  | wait => exact absurd rfl hop
  | nop => rfl
  | stop | ret | lockInput => exact yields_bind fun _ ↦ rfl
  | call | goto | releaseInput | face => exact yields_bind fun _ ↦ yields_bind fun _ ↦ rfl
  | loadBank | setTemp =>
    exact yields_bind fun _ ↦ yields_bind fun _ ↦ yields_bind fun _ ↦ rfl
  | compareBank | addBank | copyBank | loadTemp | storeTemp =>
    refine yields_bind fun _ ↦ yields_bind fun _ ↦ yields_bind fun _ ↦ ?_
    exact yields_bind fun _ ↦ rfl
  | gotoIf | callIf =>
    refine yields_bind fun _ ↦ yields_bind fun _ ↦ yields_bind fun taken ↦ ?_
    cases taken with
    | false => rfl
    | true => exact yields_bind fun _ ↦ rfl

/-! ## What ordinary requests leave alone -/

/-- The two machines run under the same name, table and switches. -/
structure Machine.SameSetup (m n : Machine κ) : Prop where
  /-- The name is the same. -/
  name : m.name = n.name
  /-- The table is the same. -/
  table : m.table = n.table
  /-- The kill switch is the same. -/
  enabled : m.enabled = n.enabled
  /-- The policy is the same. -/
  policy : m.policy = n.policy
  /-- The budget is the same. -/
  budget : m.budget = n.budget

theorem Machine.SameSetup.refl (m : Machine κ) : m.SameSetup m := ⟨rfl, rfl, rfl, rfl, rfl⟩

/-- A machine set up like `origin` that does not wait for a native task. -/
structure Machine.Follows (origin m : Machine κ) : Prop extends m.SameSetup origin where
  /-- There is no native task. -/
  scripted : m.mode ≠ .native

namespace Machine.Follows

variable {origin m : Machine κ}

/-- Anything may change but the setup, and the activity only for a script or nothing. -/
theorem of_eq {n : Machine κ} (h : Follows origin m) (hsetup : n.SameSetup m)
    (hactivity : n.mode ≠ .native) : Follows origin n where
  name := hsetup.name.trans h.name
  table := hsetup.table.trans h.table
  enabled := hsetup.enabled.trans h.enabled
  policy := hsetup.policy.trans h.policy
  budget := hsetup.budget.trans h.budget
  scripted := hactivity

end Machine.Follows

namespace Request.Ordinary

open Machine EventScript.Action

theorem preserves_readWith {origin : Machine κ} (operation : String)
    (read : Cursor → Except Fault (α × Cursor)) :
    Preserves (Follows origin) (readWith operation read : Action κ α) := by
  intro m hm
  unfold readWith
  dsimp only
  split
  · split
    · exact hm.of_eq ⟨rfl, rfl, rfl, rfl, rfl⟩ nofun
    · exact hm
  · exact hm

/-- **Ordinary requests leave the setup alone** and hand over to no native task. -/
theorem preserves_follows {origin : Machine κ} {r : Request κ} (hr : r.Ordinary) :
    Preserves (Follows origin) r.perform := by
  cases r with
  | start _ _ | startNative _ | resume | runNative _ | setTable _ | swapTable _ | setEnabled _
  | setPolicy _ => exact hr.elim
  | look | readTemporary _ => exact fun m hm ↦ hm
  | stop => exact fun m hm ↦ hm.of_eq ⟨rfl, rfl, rfl, rfl, rfl⟩ nofun
  | setComparison _ | setInputControl _ | setDirection _ =>
    exact fun m hm ↦ hm.of_eq ⟨rfl, rfl, rfl, rfl, rfl⟩ hm.scripted
  | readU8 => exact preserves_readWith _ _
  | readU16 => exact preserves_readWith _ _
  | readU32 => exact preserves_readWith _ _
  | call target =>
    intro m hm
    simp only [perform, Action.call]
    split
    · split
      · exact hm.of_eq ⟨rfl, rfl, rfl, rfl, rfl⟩ nofun
      · exact hm
    · exact hm
  | ret =>
    intro m hm
    simp only [perform, Action.ret]
    split
    · exact hm.of_eq ⟨rfl, rfl, rfl, rfl, rfl⟩ nofun
    · exact hm
    · exact hm
  | jump target =>
    intro m hm
    simp only [perform, Action.jump]
    split
    · exact hm.of_eq ⟨rfl, rfl, rfl, rfl, rfl⟩ nofun
    · exact hm
  | readTarget =>
    intro m hm
    simp only [perform, Action.readTarget]
    split
    · split
      · exact hm
      · exact hm.of_eq ⟨rfl, rfl, rfl, rfl, rfl⟩ nofun
    · exact hm
  | readBank bank =>
    intro m hm
    simp only [perform, Action.readBank]
    split
    · exact hm
    · exact hm
  | writeBank bank value =>
    intro m hm
    simp only [perform, Action.writeBank]
    split
    · exact hm.of_eq ⟨rfl, rfl, rfl, rfl, rfl⟩ hm.scripted
    · exact hm
  | writeTemporary id value =>
    intro m hm
    simp only [perform, Action.writeTemporary]
    split
    · exact hm.of_eq ⟨rfl, rfl, rfl, rfl, rfl⟩ hm.scripted
    · exact hm

end Request.Ordinary

/-! ## Two machines at once -/

/-- The context under another table, policy and budget. -/
def Context.refit (table : CommandTable κ → CommandTable κ) (policy : Policy) (budget : Nat)
    (c : Context κ) : Context κ :=
  { c with table := table c.table, policy := policy, budget := budget }

/-- The machine with its context changed. -/
def Machine.changed (f : Context κ → Context κ) (m : Machine κ) : Machine κ :=
  { m with toContext := f m.toContext }

/-- The reply with the machine left behind changed. -/
def Reply.changed (f : Context κ → Context κ) (reply : Reply κ α) : Reply κ α :=
  { reply with machine := reply.machine.changed f }

namespace Request

/-- The answer to the request from a changed machine: only a look sees the change. -/
def changed (f : Context κ → Context κ) : (r : Request κ) → Except Fault r.Answer →
    Except Fault r.Answer
  | look, answer => answer.map f
  | _, answer => answer

/-- Changing the machine first or last comes to the same. -/
def Commutes (f : Context κ → Context κ) (r : Request κ) : Prop :=
  ∀ m, r.perform.run (m.changed f) =
    ⟨r.changed f (r.perform.run m).result, (r.perform.run m).machine.changed f,
      (r.perform.run m).events⟩

end Request

namespace Program

/-- The program goes on in the same way whether or not the context it looks at was changed. -/
def Blind (f : Context κ → Context κ) : Program κ α → Prop
  | done _ | fail _ => True
  | ask request next =>
    ∀ answer, next (request.changed f answer) = next answer ∧ (next answer).Blind f

variable {f : Context κ → Context κ}

theorem blind_send_bind {r : Request κ} {g : r.Answer → Program κ β}
    (hr : ∀ answer, r.changed f answer = answer) (hg : ∀ a, (g a).Blind f) :
    (send r >>= g).Blind f := by
  intro answer
  refine ⟨by rw [hr], ?_⟩
  cases answer with
  | error e => trivial
  | ok a => exact hg a

theorem blind_look_bind {g : Context κ → Program κ β} (hg : ∀ c, g (f c) = g c)
    (hblind : ∀ c, (g c).Blind f) : (send .look >>= g).Blind f := by
  rintro (e | c)
  · exact ⟨rfl, trivial⟩
  · exact ⟨hg c, hblind c⟩

theorem blind_bind {p : Program κ α} {g : α → Program κ β} (hp : p.Blind f)
    (hg : ∀ a, (g a).Blind f) : (p >>= g).Blind f := by
  induction p with
  | done a => exact hg a
  | fail e => trivial
  | ask request next ih =>
    intro answer
    refine ⟨?_, ih answer (hp answer).2⟩
    change (next (request.changed f answer)).bind g = (next answer).bind g
    rw [(hp answer).1]

/-- **A blind program whose requests commute with a change commutes with it.** -/
theorem run_perform_changed {p : Program κ α} (hblind : p.Blind f) (hall : p.All (·.Commutes f))
    (m : Machine κ) : p.perform.run (m.changed f) = (p.perform.run m).changed f := by
  induction p generalizing m with
  | done a => rfl
  | fail e => rfl
  | ask request next ih =>
    -- The changed answer leads to the same program, and that program meets the changed machine.
    have hnext := hblind (request.perform.run m).result
    rw [run_perform_ask, run_perform_ask, hall.1 m, hnext.1, ih _ hnext.2 (hall.2 _)]
    rfl

end Program

namespace Command

open Program

variable {table : CommandTable κ → CommandTable κ} {policy : Policy} {budget : Nat}

theorem blind_readCondition :
    (readCondition : Program κ Condition).Blind (Context.refit table policy budget) := by
  refine blind_look_bind (fun _ ↦ rfl) fun context ↦ blind_send_bind (fun _ ↦ rfl) fun code ↦ ?_
  cases Condition.ofByte code <;> trivial

/-- **Core commands do not see the table, the policy and the budget.** -/
theorem blind_core (op : Opcode) :
    (core op : Program κ Verdict).Blind (Context.refit table policy budget) := by
  cases op with
  | nop | wait => trivial
  | stop | ret | lockInput => exact blind_send_bind (fun _ ↦ rfl) fun _ ↦ trivial
  | call | goto | releaseInput | face =>
    exact blind_send_bind (fun _ ↦ rfl) fun _ ↦ blind_send_bind (fun _ ↦ rfl) fun _ ↦ trivial
  | gotoIf | callIf =>
    refine blind_bind blind_readCondition fun condition ↦ ?_
    refine blind_send_bind (fun _ ↦ rfl) fun target ↦ ?_
    refine blind_bind (blind_look_bind (fun _ ↦ rfl) fun _ ↦ trivial) fun taken ↦ ?_
    cases taken with
    | false => trivial
    | true => exact blind_send_bind (fun _ ↦ rfl) fun _ ↦ trivial
  | loadBank | setTemp =>
    refine blind_send_bind (fun _ ↦ rfl) fun _ ↦ blind_send_bind (fun _ ↦ rfl) fun _ ↦ ?_
    exact blind_send_bind (fun _ ↦ rfl) fun _ ↦ trivial
  | compareBank | addBank | copyBank | loadTemp | storeTemp =>
    refine blind_send_bind (fun _ ↦ rfl) fun _ ↦ blind_send_bind (fun _ ↦ rfl) fun _ ↦ ?_
    exact blind_send_bind (fun _ ↦ rfl) fun _ ↦ blind_send_bind (fun _ ↦ rfl) fun _ ↦ trivial

end Command

namespace Request.Ordinary

variable {table : CommandTable κ → CommandTable κ} {policy : Policy} {budget : Nat}

theorem commutes_readWith {operation : String} {read : Cursor → Except Fault (α × Cursor)}
    (m : Machine κ) :
    (Action.readWith operation read).run (m.changed (Context.refit table policy budget)) =
      ((Action.readWith operation read).run m).changed (Context.refit table policy budget) := by
  rcases m with ⟨⟨_, activity, _, _, _, _, _, _, _, _, _, _, _⟩, _⟩
  cases activity with
  | paused | native _ => rfl
  | script cursor =>
    simp only [Action.readWith, Machine.changed, Context.refit]
    cases read cursor <;> rfl

/-- **Ordinary requests do not see the table, the policy and the budget.** -/
theorem commutes {r : Request κ} (hr : r.Ordinary) :
    r.Commutes (Context.refit table policy budget) := by
  intro m
  -- Taking the machine apart lets the activity be split without a second copy of it in the goal.
  rcases m with ⟨⟨_, activity, _, _, stack, _, _, _, _, _, _, _, _⟩, temporaries⟩
  cases r with
  | start _ _ | startNative _ | resume | runNative _ | setTable _ | swapTable _ | setEnabled _
  | setPolicy _ => exact hr.elim
  | look | readTemporary _ | stop | setComparison _ | setInputControl _ | setDirection _ => rfl
  | readU8 => exact commutes_readWith _
  | readU16 => exact commutes_readWith _
  | readU32 => exact commutes_readWith _
  | call target =>
    cases activity with
    | paused | native _ => rfl
    | script cursor =>
      simp only [perform, Action.call, Machine.changed, Context.refit, Context.depth]
      by_cases hroom : stack.length < stackCapacity
      · simp only [hroom, if_true]
        rfl
      · simp only [hroom, if_false]
        rfl
  | ret =>
    cases activity with
    | paused | native _ => rfl
    | script cursor => cases stack <;> rfl
  | jump target => cases activity <;> rfl
  | readTarget =>
    cases activity with
    | paused | native _ => rfl
    | script cursor =>
      simp only [perform, Action.readTarget, Machine.changed, Context.refit]
      cases cursor.readU32 <;> rfl
  | readBank bank =>
    simp only [perform, Action.readBank, Machine.changed, Context.refit]
    by_cases hbank : bank < 4
    · simp only [dif_pos hbank]
      rfl
    · simp only [dif_neg hbank]
      rfl
  | writeBank bank value =>
    simp only [perform, Action.writeBank, Machine.changed, Context.refit]
    by_cases hbank : bank < 4
    · simp only [dif_pos hbank]
      rfl
    · simp only [dif_neg hbank]
      rfl
  | writeTemporary id value =>
    simp only [perform, Action.writeTemporary, Machine.changed, Context.refit]
    cases temporaries.set id value <;> rfl

end Request.Ordinary

/-! ## Steps under the core table -/

/-- What the core table has is a core command, under the byte of its opcode. -/
theorem CommandTable.eq_core_of_lookup [CommandSet κ] {opcode : UInt8} {command : κ}
    (h : (CommandTable.core : CommandTable κ).lookup opcode = .ok command) :
    ∃ op : Opcode, opcode = op.toByte ∧ command = CommandSet.core op := by
  rw [lookup, core, List.getElem?_map] at h
  cases hop : Opcode.all[opcode.toNat]? with
  | none =>
    rw [hop] at h
    cases h
  | some op =>
    rw [hop] at h
    cases h
    refine ⟨op, Opcode.ofByte_eq_ok_iff.mp ?_, rfl⟩
    rw [Opcode.ofByte, hop]

namespace Action

open Machine

section commands

variable [CommandSet κ] [Handlers κ] [CoreHandlers κ]

theorem commandsPreserve_of_ordinary {P : Machine κ → Prop}
    (htable : ∀ m, P m → m.table = .core)
    (hP : ∀ r : Request κ, r.Ordinary → Preserves P r.perform) : CommandsPreserve P := by
  intro m opcode command hm _ hlookup
  rw [htable m hm] at hlookup
  obtain ⟨op, -, rfl⟩ := CommandTable.eq_core_of_lookup hlookup
  rw [CoreHandlers.handle_core]
  exact Program.preserves_of_all (Command.all_core op) hP m hm

omit [CommandSet κ] [Handlers κ] [CoreHandlers κ] in
theorem stableUnderStep_follows (origin : Machine κ) : StableUnderStep (Follows origin) where
  fetch := Request.Ordinary.preserves_readWith _ _
  park := by
    intro m hm
    unfold park
    dsimp only
    split
    · exact hm.of_eq ⟨rfl, rfl, rfl, rfl, rfl⟩ nofun
    · exact hm
  stop := fun m hm ↦ hm.of_eq ⟨rfl, rfl, rfl, rfl, rfl⟩ nofun
  fault := fun e m hm ↦ hm.of_eq ⟨rfl, rfl, rfl, rfl, rfl⟩ nofun
  poll := by
    intro task m hactivity hm
    exact absurd (congrArg Activity.mode hactivity) hm.scripted

theorem commandsPreserve_follows {origin : Machine κ}
    (h : origin.table = .core) : CommandsPreserve (Follows origin) :=
  commandsPreserve_of_ordinary (fun _ hm ↦ hm.table.trans h)
    fun _ hr ↦ Request.Ordinary.preserves_follows hr

theorem table_dispatch {m : Machine κ} (h : m.table = .core) :
    (dispatch.run m).machine.table = .core := by
  by_cases hmode : m.mode = .normal
  · have hfollows : Follows m (dispatch.run m).machine :=
      (stableUnderStep_follows m).dispatch (commandsPreserve_follows h) m
        ⟨.refl m, by rw [hmode]; nofun⟩
    exact hfollows.table.trans h
  · rw [run_dispatch_of_idle hmode]
    exact h

omit [CommandSet κ] [Handlers κ] [CoreHandlers κ] in
/-- What a verdict leads to is the same on a machine with another setup. -/
theorem run_heeding_changed {table : CommandTable κ → CommandTable κ} {policy : Policy}
    {budget : Nat} {a : Action κ Verdict} {m : Machine κ}
    (h : a.run (m.changed (Context.refit table policy budget)) =
      (a.run m).changed (Context.refit table policy budget)) :
    (heeding a).run (m.changed (Context.refit table policy budget)) =
      ((heeding a).run m).changed (Context.refit table policy budget) := by
  have hpark : ∀ n : Machine κ, park.run (n.changed (Context.refit table policy budget)) =
      (park.run n).changed (Context.refit table policy budget) := by
    rintro ⟨⟨_, activity, _, _, _, _, _, _, _, _, _, _, _⟩, _⟩
    cases activity <;> rfl
  cases hresult : (a.run m).result with
  | error e =>
    rw [run_heeding_of_error hresult, run_heeding_of_error (by rw [h]; exact hresult), h]
    rfl
  | ok verdict =>
    cases verdict with
    | proceed =>
      rw [run_heeding_of_proceed hresult, run_heeding_of_proceed (by rw [h]; exact hresult), h]
      rfl
    | suspend =>
      rw [run_heeding_of_suspend hresult, run_heeding_of_suspend (by rw [h]; exact hresult), h,
        Reply.changed, hpark]
      rfl

theorem run_handle_core_changed (table : CommandTable κ → CommandTable κ)
    (policy : Policy) (budget : Nat) (op : Opcode) (m : Machine κ) :
    (Handlers.handle (CommandSet.core op : κ)).run (m.changed (Context.refit table policy budget)) =
      ((Handlers.handle (CommandSet.core op : κ)).run m).changed
        (Context.refit table policy budget) := by
  rw [CoreHandlers.handle_core]
  exact Program.run_perform_changed (Command.blind_core op)
    (Program.all_mono (Command.all_core op) fun _ hr ↦ hr.commutes) m

theorem run_dispatch_changed {m : Machine κ} (c : Cursor) (htable : m.table = .core)
    (policy : Policy) (budget : Nat) :
    dispatch.run ((m.movedTo c).changed (Context.refit id policy budget)) =
      (dispatch.run (m.movedTo c)).changed (Context.refit id policy budget) := by
  let n : Machine κ := m.changed (Context.refit id policy budget)
  change dispatch.run (n.movedTo c) = _
  cases hrest : c.rest with
  | nil =>
    rw [run_dispatch_of_atEnd hrest, run_dispatch_of_atEnd hrest]
    rfl
  | cons opcode back =>
    cases hlookup : m.table.lookup opcode with
    | error kind =>
      have hn : n.table.lookup opcode = .error kind := hlookup
      rw [run_dispatch_of_error hrest hlookup, run_dispatch_of_error hrest hn]
      rfl
    | ok command =>
      have hn : n.table.lookup opcode = .ok command := hlookup
      -- The table is the core table, so the command is a core command and does not see the change.
      have hheeding : (heeding (Handlers.handle command)).run (n.movedTo (c.advance 1)) =
          ((heeding (Handlers.handle command)).run (m.movedTo (c.advance 1))).changed
            (Context.refit id policy budget) := by
        rw [htable] at hlookup
        obtain ⟨op, -, rfl⟩ := CommandTable.eq_core_of_lookup hlookup
        exact run_heeding_changed
          (run_handle_core_changed id policy budget op (m.movedTo (c.advance 1)))
      rw [run_dispatch_of_command hrest hlookup, run_dispatch_of_command hrest hn, hheeding]
      rfl

end commands

end Action

end EventScript
