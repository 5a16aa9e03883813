import EventScript.Proofs.KillSwitch

/-!
# Derived tables

A host extends the instruction set by editing a copy of the core table. Scripts that keep to the
opcodes that no edit is about do not notice: they run under the derived table as they run under the
core table, answer by answer and state by state.

## Two machines that differ in the table

The two runs are compared machine by machine. A machine under the one table and the same machine
under the other fetch the same opcode; if both tables have the same core command for it, the two
machines do the same, because core commands do not see the table they were found in. The agreement
lasts as long as the opcodes fetched are shared in this sense. What other commands the tables have,
and how far each of them reaches, makes no difference until one of these is fetched.
-/

namespace EventScript

variable {κ α : Type}

/-! ## Entries that no change is about -/

/-- The opcode that a change of a table is about. -/
def TableEdit.opcode : TableEdit κ → UInt8
  | register opcode _ => opcode
  | set opcode _ => opcode.toByte
  | unregister opcode => opcode

/-- A core opcode that none of the changes is about. -/
def Untouched (changes : List (TableEdit κ)) (opcode : UInt8) : Prop :=
  opcode.toNat < 18 ∧ ∀ change ∈ changes, change.opcode ≠ opcode

instance (changes : List (TableEdit κ)) (opcode : UInt8) : Decidable (Untouched changes opcode) :=
  inferInstanceAs (Decidable (_ ∧ _))

namespace CommandTable

theorem getElem?_register_of_ne {t : CommandTable κ} {opcode : UInt8} {i : Nat}
    (hne : i ≠ opcode.toNat) (hi : i < t.length) (command : κ) :
    (t.register opcode command).entries[i]? = t.entries[i]? := by
  rw [getElem?_register, if_neg hne, if_pos hi]

/-- A change leaves the other entries alone, and none of them is lost. -/
theorem getElem?_edit_of_ne {t : CommandTable κ} {change : TableEdit κ} {i : Nat}
    (hne : i ≠ change.opcode.toNat) (hi : i < t.length) :
    (t.edit change).entries[i]? = t.entries[i]? ∧ i < (t.edit change).length := by
  cases change with
  | register opcode command =>
    refine ⟨getElem?_register_of_ne hne hi command, ?_⟩
    rw [edit, length_register]
    exact Nat.lt_of_lt_of_le hi (Nat.le_max_left _ _)
  | set opcode command =>
    refine ⟨getElem?_register_of_ne hne hi command, ?_⟩
    rw [edit, length_register]
    exact Nat.lt_of_lt_of_le hi (Nat.le_max_left _ _)
  | unregister opcode =>
    have hother : ¬opcode.toNat = i := Ne.symm hne
    rw [edit, getElem?_unregister, if_neg hother, length_unregister]
    exact ⟨rfl, hi⟩

/-- **Changes leave the entries alone that they are not about.** -/
theorem getElem?_edits {t : CommandTable κ} {changes : List (TableEdit κ)} {opcode : UInt8}
    (hchanges : ∀ change ∈ changes, change.opcode ≠ opcode) (hlength : opcode.toNat < t.length) :
    (t.edits changes).entries[opcode.toNat]? = t.entries[opcode.toNat]? := by
  induction changes generalizing t with
  | nil => rfl
  | cons change others ih =>
    obtain ⟨hchange, hothers⟩ := List.forall_mem_cons.mp hchanges
    have hne : opcode.toNat ≠ change.opcode.toNat :=
      fun h ↦ hchange (UInt8.toNat_inj.mp h.symm)
    obtain ⟨hentry, hnext⟩ := getElem?_edit_of_ne hne hlength
    rw [← hentry]
    exact ih hothers hnext

variable [CommandSet κ]

/-- Both tables have the same core command for the opcode. -/
def Share (t t' : CommandTable κ) (opcode : UInt8) : Prop :=
  ∃ op : Opcode, t.lookup opcode = .ok (CommandSet.core op) ∧
    t'.lookup opcode = .ok (CommandSet.core op)

theorem Share.symm {t t' : CommandTable κ} {opcode : UInt8} (h : t.Share t' opcode) :
    t'.Share t opcode := by
  obtain ⟨op, hop, hop'⟩ := h
  exact ⟨op, hop', hop⟩

/-- A derived table shares with the core table the opcodes that no change is about. -/
theorem share_of_untouched {changes : List (TableEdit κ)} {opcode : UInt8}
    (h : Untouched changes opcode) (name : String) :
    ((derive name .core).edits changes).Share (core : CommandTable κ) opcode := by
  obtain ⟨hlength, hchanges⟩ := h
  have hin : opcode.toNat < Opcode.all.length := hlength
  have hentry : (core : CommandTable κ).entries[opcode.toNat]? =
      some (some (CommandSet.core Opcode.all[opcode.toNat])) := by
    rw [core, List.getElem?_map, List.getElem?_eq_getElem hin]
    rfl
  have hderived : ((derive name (core : CommandTable κ)).edits changes).entries[opcode.toNat]? =
      some (some (CommandSet.core Opcode.all[opcode.toNat])) :=
    (getElem?_edits (t := derive name core) hchanges hlength).trans hentry
  refine ⟨Opcode.all[opcode.toNat], ?_, ?_⟩
  · rw [lookup, hderived]
  · rw [lookup, hentry]

end CommandTable

/-! ## Under another table -/

/-- The machine under another table. -/
def Machine.bound (m : Machine κ) (table : CommandTable κ) : Machine κ := { m with table := table }

theorem Machine.bound_of_table {m : Machine κ} {t : CommandTable κ} (h : m.table = t) :
    m.bound t = m := by
  subst h
  rfl

/-- The second reply is the first one under the table `t'` in place of `t`. Events are not compared,
because they name the table. -/
structure Reply.Rebound (t t' : CommandTable κ) (reply reply' : Reply κ α) : Prop where
  /-- The answer is the same. -/
  result : reply'.result = reply.result
  /-- The machine is the same but for its table. -/
  machine : reply'.machine = reply.machine.bound t'
  /-- The first machine is under the first table. -/
  table : reply.machine.table = t

namespace Action

open Machine

variable {t t' : CommandTable κ}

theorem rebound_heeding {a a' : Action κ Verdict} {m m' : Machine κ}
    (h : (a.run m).Rebound t t' (a'.run m')) :
    ((heeding a).run m).Rebound t t' ((heeding a').run m') := by
  have hpark : ∀ n : Machine κ, n.table = t →
      (park.run n).Rebound t t' (park.run (n.bound t')) := by
    rintro ⟨⟨_, activity, _, _, _, _, _, _, _, _, _, _, _⟩, _⟩ htable
    cases activity <;> exact ⟨rfl, rfl, htable⟩
  rcases hresult : (a.run m).result with e | _ | _
  · rw [run_heeding_of_error hresult, run_heeding_of_error (h.result.trans hresult)]
    exact ⟨rfl, h.machine, h.table⟩
  · rw [run_heeding_of_proceed hresult, run_heeding_of_proceed (h.result.trans hresult), h.machine]
    exact ⟨rfl, rfl, h.table⟩
  · rw [run_heeding_of_suspend hresult, run_heeding_of_suspend (h.result.trans hresult), h.machine]
    have hparked := hpark _ h.table
    rw [hparked.machine]
    exact ⟨rfl, rfl, hparked.table⟩

theorem rebound_catching {a a' : Action κ α} {m m' : Machine κ}
    (h : (a.run m).Rebound t t' (a'.run m')) :
    ((catching a).run m).Rebound t t' ((catching a').run m') := by
  rcases hresult : (a.run m).result with e | x
  · rw [run_catching_of_error hresult, run_catching_of_error (h.result.trans hresult), h.machine]
    exact ⟨rfl, rfl, h.table⟩
  · rw [run_catching_of_ok hresult, run_catching_of_ok (h.result.trans hresult)]
    exact h

theorem rebound_pollNative (task : NativeTask) {m : Machine κ} (htable : m.table = t) :
    ((pollNative task).run m).Rebound t t' ((pollNative task).run (m.bound t')) := by
  unfold pollNative
  split <;> exact ⟨rfl, rfl, htable⟩

variable [CommandSet κ]

theorem rebound_core (t' : CommandTable κ) (op : Opcode) {m : Machine κ} (c : Cursor)
    (htable : m.table = t) :
    ((Handlers.handle (CommandSet.core op : κ)).run (m.movedTo c)).Rebound t t'
      ((Handlers.handle (CommandSet.core op : κ)).run ((m.bound t').movedTo c)) := by
  have hfollows : Follows (m.movedTo c)
      ((Handlers.handle (CommandSet.core op : κ)).run (m.movedTo c)).machine := by
    rw [CoreHandlers.handle_core]
    exact Program.preserves_of_all (Command.all_core op)
      (fun _ hr ↦ Request.Ordinary.preserves_follows hr) _ ⟨.refl _, nofun⟩
  have hpolicy : _ = m.policy := hfollows.policy
  have hbudget : _ = m.budget := hfollows.budget
  -- Binding the table is a refitting that leaves the policy and the budget as they are.
  have hchanged := run_handle_core_changed (fun _ ↦ t') m.policy m.budget op (m.movedTo c)
  have hbound : (m.movedTo c).changed (Context.refit (fun _ ↦ t') m.policy m.budget) =
      (m.bound t').movedTo c := rfl
  rw [hbound] at hchanged
  rw [hchanged]
  refine ⟨rfl, ?_, hfollows.table.trans htable⟩
  rw [Reply.changed, changed, Context.refit, ← hpolicy, ← hbudget]
  rfl

end Action

/-! ## What is fetched -/

/-- The opcode that a deed fetches, whether or not there is a command for it. -/
def Deed.fetched? : Deed κ → Option UInt8
  | poll _ => none
  | unit m => m.position?.bind fun cursor ↦ cursor.rest.head?

namespace Action

open Machine

variable [CommandSet κ] {t t' : CommandTable κ}

/-- **A dispatch unit is the same under tables that share the opcode it fetches.** -/
theorem rebound_dispatch {m : Machine κ} (htable : m.table = t)
    (hshare : ∀ opcode ∈ (Deed.unit m).fetched?, t.Share t' opcode) :
    (dispatch.run m).Rebound t t' (dispatch.run (m.bound t')) := by
  by_cases hmode : m.mode = .normal
  · obtain ⟨c, hc⟩ := exists_eq_movedTo_of_mode hmode
    rw [hc] at hshare ⊢
    change (dispatch.run (m.movedTo c)).Rebound t t' (dispatch.run ((m.bound t').movedTo c))
    rcases hrest : c.rest with _ | ⟨opcode, back⟩
    · rw [run_dispatch_of_atEnd hrest, run_dispatch_of_atEnd hrest]
      exact ⟨rfl, rfl, htable⟩
    · have hfetched : (Deed.unit (m.movedTo c)).fetched? = some opcode := by
        change c.rest.head? = _
        rw [hrest, List.head?_cons]
      obtain ⟨op, hop, hop'⟩ := hshare opcode hfetched
      rw [← htable] at hop
      rw [run_dispatch_of_command hrest hop,
        run_dispatch_of_command (m := m.bound t') hrest hop']
      have hcore := rebound_core t' op (c.advance 1) htable
      have hheeding := rebound_heeding hcore
      exact ⟨hheeding.result, hheeding.machine, hheeding.table⟩
  · rw [run_dispatch_of_idle hmode, run_dispatch_of_idle (m := m.bound t') hmode]
    exact ⟨rfl, rfl, htable⟩

theorem rebound_dispatchUpTo {m : Machine κ} {budget : Nat} (htable : m.table = t)
    (hshare : ∀ n ∈ m.units budget, ∀ opcode ∈ (Deed.unit n).fetched?, t.Share t' opcode) :
    ((dispatchUpTo budget).run m).Rebound t t' ((dispatchUpTo budget).run (m.bound t')) := by
  rw [dispatchUpTo_eq_whileRunning]
  induction budget generalizing m with
  | zero => exact ⟨rfl, rfl, htable⟩
  | succ budget ih =>
    by_cases hmore : (dispatch.run m).result = .ok .running ∧
        (dispatch.run m).machine.mode = .normal
    · rw [units_of_more hmore.1 hmore.2, List.forall_mem_cons] at hshare
      have hunit := rebound_dispatch htable hshare.1
      have hrest := ih hunit.table hshare.2
      have hmode : (dispatch.run (m.bound t')).machine.mode = .normal := by
        rw [hunit.machine]
        exact hmore.2
      rw [run_whileRunning_of_more hmore.1 hmore.2,
        run_whileRunning_of_more (hunit.result.trans hmore.1) hmode, hunit.machine]
      exact ⟨hrest.result, hrest.machine, hrest.table⟩
    · rw [units_of_last hmore, List.forall_mem_singleton] at hshare
      have hunit := rebound_dispatch htable hshare
      have hlast : ¬((dispatch.run (m.bound t')).result = .ok .running ∧
          (dispatch.run (m.bound t')).machine.mode = .normal) := by
        rw [hunit.result, hunit.machine]
        exact hmore
      rw [run_whileRunning_of_no_more hmore, run_whileRunning_of_no_more hlast]
      exact hunit

theorem rebound_stepUpTo {m : Machine κ} {budget : Nat} (htable : m.table = t)
    (hshare : ∀ deed ∈ m.deeds budget, ∀ opcode ∈ deed.fetched?, t.Share t' opcode) :
    ((stepUpTo budget).run m).Rebound t t' ((stepUpTo budget).run (m.bound t')) := by
  rcases henabled : m.enabled with _ | _
  · rw [run_stepUpTo_of_disabled henabled, run_stepUpTo_of_disabled (m := m.bound t') henabled]
    exact ⟨rfl, rfl, htable⟩
  rcases hactivity : m.activity with _ | c | task
  · rw [run_stepUpTo_of_paused hactivity, run_stepUpTo_of_paused (m := m.bound t') hactivity]
    exact ⟨rfl, rfl, htable⟩
  · have hstep : (stepUpTo budget).run m = (catching (dispatchUpTo budget)).run m := by
      rw [← movedTo_of_activity hactivity]
      exact run_stepUpTo_of_script henabled budget
    have hstep' : (stepUpTo budget).run (m.bound t') =
        (catching (dispatchUpTo budget)).run (m.bound t') := by
      rw [← movedTo_of_activity (m := m.bound t') hactivity]
      exact run_stepUpTo_of_script (m := m.bound t') henabled budget
    rw [deeds_of_script henabled hactivity, List.forall_mem_map] at hshare
    rw [hstep, hstep']
    exact rebound_catching (rebound_dispatchUpTo htable hshare)
  · rw [run_stepUpTo_of_native henabled hactivity,
      run_stepUpTo_of_native (m := m.bound t') henabled hactivity]
    exact rebound_pollNative task htable

end Action

/-! ## Runs under a table -/

/-- The request with the table in place of any that it binds. -/
def Request.under (table : CommandTable κ) : Request κ → Request κ
  | start script _ => start script table
  | setTable _ => setTable table
  | swapTable _ => swapTable table
  | r => r

namespace Request

theorem under_of_ordinary {r : Request κ} (hr : r.Ordinary) (table : CommandTable κ) :
    r.under table = r := by
  cases r with
  | start _ _ | setTable _ | swapTable _ => exact hr.elim
  | _ => rfl

/-- Whether the request was granted, and else the fault. -/
def granted (r : Request κ) (m : Machine κ) : Except Fault Unit :=
  (r.perform.run m).result.map fun _ ↦ ()

theorem map_changed {r : Request κ} (f : Context κ → Context κ) (answer : Except Fault r.Answer) :
    (r.changed f answer).map (fun _ ↦ ()) = answer.map fun _ ↦ () := by
  cases r with
  | look => cases answer <;> rfl
  | _ => rfl

theorem setup_untouched_of_ordinary {r : Request κ} (hr : r.Ordinary) :
    ∀ part ∈ [Part.table, .policy, .budget], part ∉ r.touched := by
  cases r with
  | start _ _ | startNative _ | resume | runNative _ | setTable _ | swapTable _ | setEnabled _
  | setPolicy _ => exact hr.elim
  | _ => simp [touched]

theorem rebound {t : CommandTable κ} (t' : CommandTable κ) {m : Machine κ} (htable : m.table = t)
    (r : Request κ) :
    (r.under t').granted (m.bound t') = (r.under t).granted m ∧
      ((r.under t').perform.run (m.bound t')).machine =
        ((r.under t).perform.run m).machine.bound t' ∧
      ((r.under t).perform.run m).machine.table = t := by
  by_cases hr : r.Ordinary
  · have huntouched := setup_untouched_of_ordinary hr
    have hpolicy : (r.perform.run m).machine.policy = m.policy :=
      agreeIn (huntouched .policy (by simp)) m
    have hbudget : (r.perform.run m).machine.budget = m.budget :=
      agreeIn (huntouched .budget (by simp)) m
    have hkept : (r.perform.run m).machine.table = m.table :=
      agreeIn (huntouched .table (by simp)) m
    have hcommutes : r.Commutes (Context.refit (fun _ ↦ t') m.policy m.budget) := hr.commutes
    have hrun := hcommutes m
    have hbound : m.changed (Context.refit (fun _ ↦ t') m.policy m.budget) = m.bound t' := rfl
    rw [hbound] at hrun
    rw [under_of_ordinary hr, under_of_ordinary hr, granted, granted, hrun, map_changed]
    refine ⟨rfl, ?_, hkept.trans htable⟩
    rw [Machine.changed, Context.refit, ← hpolicy, ← hbudget]
    rfl
  · -- Taking the machine apart settles by computation what a request does that looks at few parts.
    rcases m with ⟨⟨_, activity, parked, _, _, _, _, enabled, _, _, _, _, _⟩, _⟩
    cases r with
    | start _ _ =>
      cases enabled with
      | false => exact ⟨rfl, rfl, htable⟩
      | true => exact ⟨rfl, rfl, rfl⟩
    | startNative _ => cases enabled <;> exact ⟨rfl, rfl, htable⟩
    | resume => cases enabled <;> cases activity <;> cases parked <;> exact ⟨rfl, rfl, htable⟩
    | setTable _ | swapTable _ => exact ⟨rfl, rfl, rfl⟩
    | runNative _ | setEnabled _ | setPolicy _ => exact ⟨rfl, rfl, htable⟩
    | _ => exact absurd trivial hr

end Request

namespace Operation

/-- The operation with the table in place of any that it binds. -/
def under (table : CommandTable κ) : Operation κ → Operation κ
  | request r => request (r.under table)
  | step => step
  | stepOnce => stepOnce

/-- What an operation comes to: the outcome of a step, or that a request was granted. -/
def answer [Handlers κ] (m : Machine κ) : Operation κ → Except Fault (Option StepOutcome)
  | request r => (r.granted m).map fun _ ↦ none
  | step => (Action.step.run m).result.map some
  | stepOnce => (Action.stepOnce.run m).result.map some

variable [CommandSet κ] {t t' : CommandTable κ} {m : Machine κ}

theorem rebound (htable : m.table = t) {operation : Operation κ}
    (hshare : ∀ deed ∈ (operation.under t).deeds m, ∀ opcode ∈ deed.fetched?, t.Share t' opcode) :
    (operation.under t').answer (m.bound t') = (operation.under t).answer m ∧
      (operation.under t').after (m.bound t') = ((operation.under t).after m).bound t' ∧
      ((operation.under t).after m).table = t := by
  cases operation with
  | request r =>
    obtain ⟨hgranted, hmachine, hkept⟩ := r.rebound t' htable
    exact ⟨congrArg (Except.map fun _ ↦ none) hgranted, hmachine, hkept⟩
  | step =>
    have hstep : (Action.step.run m).Rebound t t' (Action.step.run (m.bound t')) := by
      rw [Action.run_step, Action.run_step]
      exact Action.rebound_stepUpTo htable hshare
    exact ⟨congrArg (Except.map some) hstep.result, hstep.machine, hstep.table⟩
  | stepOnce =>
    have hstep : (Action.stepOnce.run m).Rebound t t' (Action.stepOnce.run (m.bound t')) :=
      Action.rebound_stepUpTo htable hshare
    exact ⟨congrArg (Except.map some) hstep.result, hstep.machine, hstep.table⟩

end Operation

namespace Machine

section run

variable [Handlers κ] (m : Machine κ) (table : CommandTable κ)

/-- What the operations come to, in order. -/
def answers (m : Machine κ) : List (Operation κ) → List (Except Fault (Option StepOutcome))
  | [] => []
  | operation :: others => operation.answer m :: (operation.after m).answers others

variable (operations : List (Operation κ))

/-- What the operations come to when all is done under the table. -/
def answersUnder : List (Except Fault (Option StepOutcome)) :=
  (m.bound table).answers (operations.map (·.under table))

/-- The machine after the operations when all is done under the table. -/
def throughUnder : Machine κ := (m.bound table).through (operations.map (·.under table))

/-- The opcodes fetched in the course of the operations when all is done under the table. -/
def fetchedUnder : List UInt8 :=
  ((m.bound table).history (operations.map (·.under table))).filterMap Deed.fetched?

end run

variable [CommandSet κ] {t t' : CommandTable κ}

/-- **Runs agree as long as the tables share what is fetched.** -/
theorem rebound_operations {m : Machine κ} (htable : m.table = t) {operations : List (Operation κ)}
    (hshare : ∀ deed ∈ m.history (operations.map (·.under t)), ∀ opcode ∈ deed.fetched?,
      t.Share t' opcode) :
    (m.bound t').answers (operations.map (·.under t')) = m.answers (operations.map (·.under t)) ∧
      (m.bound t').through (operations.map (·.under t')) =
        (m.through (operations.map (·.under t))).bound t' ∧
      (m.through (operations.map (·.under t))).table = t := by
  induction operations generalizing m with
  | nil => exact ⟨rfl, rfl, htable⟩
  | cons operation others ih =>
    rw [List.map_cons, history, List.forall_mem_append] at hshare
    obtain ⟨hanswer, hafter, hkept⟩ := Operation.rebound htable hshare.1
    obtain ⟨hanswers, hthrough⟩ := ih hkept hshare.2
    rw [← hafter] at hanswers hthrough
    refine ⟨?_, hthrough⟩
    rw [List.map_cons, List.map_cons, answers, answers, hanswer, hanswers]

theorem rebound_under {m : Machine κ} {operations : List (Operation κ)}
    (hshare : ∀ opcode ∈ m.fetchedUnder t operations, t.Share t' opcode) :
    m.answersUnder t' operations = m.answersUnder t operations ∧
      m.throughUnder t' operations = (m.throughUnder t operations).bound t' ∧
      (m.throughUnder t operations).table = t := by
  refine rebound_operations (m := m.bound t) rfl fun deed hdeed opcode hopcode ↦ ?_
  exact hshare opcode (List.mem_filterMap.mpr ⟨deed, hdeed, hopcode⟩)

end Machine

/-- **Derived tables are conservative.** Whatever is done to a context, under a table derived from
the core table it comes to the same as under the core table, and leaves the same machine but for the
table, as long as no opcode fetched in one of the two runs is beyond the core opcodes or one that a
change is about. -/
theorem derived_table_conservative [CommandSet κ] (name : String) (changes : List (TableEdit κ))
    (m : Machine κ) (operations : List (Operation κ)) :
    let derived := (CommandTable.derive name (.core : CommandTable κ)).edits changes
    ((∀ opcode ∈ m.fetchedUnder .core operations, Untouched changes opcode) ∨
      ∀ opcode ∈ m.fetchedUnder derived operations, Untouched changes opcode) →
    m.answersUnder derived operations = m.answersUnder .core operations ∧
      m.throughUnder derived operations = (m.throughUnder .core operations).bound derived := by
  intro derived huntouched
  have hshare : ∀ {opcode}, Untouched changes opcode → derived.Share .core opcode :=
    fun h ↦ CommandTable.share_of_untouched h name
  rcases huntouched with hcore | hderived
  · obtain ⟨hanswers, hthrough, -⟩ :=
      Machine.rebound_under fun opcode hopcode ↦ (hshare (hcore opcode hopcode)).symm
    exact ⟨hanswers, hthrough⟩
  · obtain ⟨hanswers, hthrough, htable⟩ :=
      Machine.rebound_under fun opcode hopcode ↦ hshare (hderived opcode hopcode)
    refine ⟨hanswers.symm, ?_⟩
    rw [hthrough]
    exact (Machine.bound_of_table htable).symm

/-- One command beyond the core opcodes, one in place of `nop`, and none for `call`. -/
def revisedChanges : List (TableEdit Opcode) :=
  [.register 0x20 .stop, .set .nop .wait, .unregister 0x03]

/-- The core table with these changes. -/
def revisedTable : CommandTable Opcode := (CommandTable.derive "revised" .core).edits revisedChanges

/-- Loads a bank, waits, adds to the bank and compares it; then comes a `nop`. -/
def revisedScript : Script :=
  .ofBytes 0 [0x07, 0x00, 0x05, 0x00, 0x00, 0x00, 0x0b, 0x09, 0x00, 0x01, 0x00, 0x00, 0x00,
    0x08, 0x00, 0x06, 0x00, 0x00, 0x00, 0x00]

/-- The script up to the `nop`. -/
def revisedOperations : List (Operation Opcode) :=
  [.request (.start revisedScript .core), .step, .stepOnce, .request .resume, .step, .step]

/-- A machine that is yet to run the script. -/
def revisedMachine : Machine Opcode := .new "primary"

/-- Up to the `nop` the script runs under a longer table with other commands as it runs under the
core table; where the `nop` stands, the one suspends and the other goes on. -/
theorem derived_table_conservative_revised :
    revisedTable.length = 33 ∧
      revisedMachine.answersUnder revisedTable revisedOperations =
        revisedMachine.answersUnder .core revisedOperations ∧
      revisedMachine.throughUnder revisedTable revisedOperations =
        (revisedMachine.throughUnder .core revisedOperations).bound revisedTable ∧
      (revisedMachine.throughUnder revisedTable revisedOperations).banks = #v[6, 0, 0, 0] ∧
      (revisedMachine.answersUnder revisedTable (revisedOperations ++ [.step])).getLast? =
        some (.ok (some .suspended)) ∧
      (revisedMachine.answersUnder .core (revisedOperations ++ [.step])).getLast? =
        some (.ok (some .running)) := by
  have huntouched : ∀ opcode ∈ revisedMachine.fetchedUnder .core revisedOperations,
      Untouched revisedChanges opcode := by decide +kernel
  obtain ⟨hanswers, hthrough⟩ := derived_table_conservative "revised" revisedChanges revisedMachine
    revisedOperations (.inl huntouched)
  exact ⟨rfl, hanswers, hthrough, rfl, rfl, rfl⟩

end EventScript
