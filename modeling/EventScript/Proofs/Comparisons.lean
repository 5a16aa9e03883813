import EventScript.Proofs.Accounting
import EventScript.Proofs.Changes
import EventScript.Proofs.Reference

/-!
# What a conditional command goes by

A comparison and the branch that depends on it are two commands, and all that passes between them is
one byte of the context. This file shows that the byte is enough. However far apart the two commands
are, in whichever scripts they stand, and whatever has become of the bank since, the branch is taken
exactly if the value that the bank held when it was compared is in the relation that the condition
names, as unsigned numbers.

## The relay

What happens to a context is told by its account, the list of its dispatch units and native polls,
each with the machine as it was right before. The byte is handed from one of them to the next, and
no request of the host comes in between that would change it (`Relay`). Of the core instructions,
one changes it. So what a branch finds is what the last completed comparison has left.

A comparison that faults is none, and the byte survives the fault, the end of the script and the
start of the next one.
-/

namespace EventScript

variable {κ : Type}

/-! ## Conditions as relations -/

/-- The byte says less, equal or greater. -/
def IsComparison (comparison : UInt8) : Prop := comparison = 0 ∨ comparison = 1 ∨ comparison = 2

theorem comparisonOf_cases (left right : UInt32) :
    (left.toNat < right.toNat ∧ comparisonOf left right = 0) ∨
    (left.toNat = right.toNat ∧ comparisonOf left right = 1) ∨
    (left.toNat > right.toNat ∧ comparisonOf left right = 2) := by
  rw [comparisonOf]
  by_cases hlt : left < right
  · rw [if_pos hlt]
    exact .inl ⟨UInt32.lt_iff_toNat_lt.mp hlt, rfl⟩
  · have hle : right.toNat ≤ left.toNat :=
      Nat.le_of_not_lt fun h ↦ hlt (UInt32.lt_iff_toNat_lt.mpr h)
    rw [if_neg hlt]
    by_cases heq : left = right
    · rw [if_pos heq]
      exact .inr (.inl ⟨congrArg UInt32.toNat heq, rfl⟩)
    · rw [if_neg heq]
      exact .inr (.inr ⟨Nat.lt_of_le_of_ne hle fun h ↦ heq (UInt32.toNat_inj.mp h.symm), rfl⟩)

theorem isComparison_comparisonOf (left right : UInt32) :
    IsComparison (comparisonOf left right) := by
  rcases comparisonOf_cases left right with ⟨-, h⟩ | ⟨-, h⟩ | ⟨-, h⟩
  · exact .inl h
  · exact .inr (.inl h)
  · exact .inr (.inr h)

namespace Condition

/-- The condition that holds when this one does not. -/
def opposite : Condition → Condition
  | less => greaterOrEqual
  | equal => notEqual
  | greater => lessOrEqual
  | lessOrEqual => greater
  | greaterOrEqual => less
  | notEqual => equal

/-- The relation of unsigned numbers that the condition names. -/
def Relates (condition : Condition) (left right : UInt32) : Prop :=
  match condition with
  | less => left.toNat < right.toNat
  | equal => left.toNat = right.toNat
  | greater => left.toNat > right.toNat
  | lessOrEqual => left.toNat ≤ right.toNat
  | greaterOrEqual => left.toNat ≥ right.toNat
  | notEqual => left.toNat ≠ right.toNat

instance (condition : Condition) (left right : UInt32) : Decidable (condition.Relates left right) :=
  match condition with
  | less => inferInstanceAs (Decidable (left.toNat < right.toNat))
  | equal => inferInstanceAs (Decidable (left.toNat = right.toNat))
  | greater => inferInstanceAs (Decidable (left.toNat > right.toNat))
  | lessOrEqual => inferInstanceAs (Decidable (left.toNat ≤ right.toNat))
  | greaterOrEqual => inferInstanceAs (Decidable (left.toNat ≥ right.toNat))
  | notEqual => inferInstanceAs (Decidable (left.toNat ≠ right.toNat))

/-- Of a condition and its opposite exactly one holds. -/
theorem holds_opposite {comparison : UInt8} (h : IsComparison comparison) (condition : Condition) :
    condition.opposite.holds comparison = !condition.holds comparison := by
  rcases h with rfl | rfl | rfl <;> cases condition <;> rfl

/-- **A condition judges a comparison by its relation.** -/
theorem holds_comparisonOf_iff {condition : Condition} {left right : UInt32} :
    condition.holds (comparisonOf left right) = true ↔ condition.Relates left right := by
  rcases comparisonOf_cases left right with ⟨horder, hbyte⟩ | ⟨horder, hbyte⟩ | ⟨horder, hbyte⟩ <;>
    rw [hbyte] <;> cases condition <;> rw [Relates] <;>
    first
    | exact iff_of_true rfl (by omega)
    | exact iff_of_false nofun (by omega)

end Condition

/-! ## What changes the comparison result -/

theorem Request.comparison_eq {r : Request κ} (hr : ∀ value, r ≠ .setComparison value)
    (m : Machine κ) : (r.perform.run m).machine.comparison = m.comparison := by
  have huntouched : .comparison ∉ r.touched := by
    cases r with
    | setComparison value => exact absurd rfl (hr value)
    | _ => simp [touched]
  exact agreeIn huntouched m

theorem Instruction.comparison_effect {i : Instruction}
    (h : ∀ bank value, i ≠ .compareBank bank value) (next : Cursor) (m : Machine κ) :
    (i.effect next m).comparison = m.comparison := by
  cases i with
  | compareBank bank value => exact absurd rfl (h bank value)
  | ret | gotoIf _ _ | callIf _ _ =>
    rw [effect]
    split <;> rfl
  | loadBank _ _ | addBank _ _ | copyBank _ _ | loadTemp _ _ =>
    rw [effect, Machine.withBank]
    split <;> rfl
  | setTemp _ _ | storeTemp _ _ =>
    rw [effect, Machine.withTemporary]
    split <;> rfl
  | _ => rfl

/-! ## Completed instructions -/

variable [CommandSet κ]

/-- The next dispatch unit finds the instruction in front of the cursor and does not fault. -/
structure Machine.Completes (m : Machine κ) (i : Instruction) (c : Cursor) : Prop where
  /-- The script is running, from that cursor. -/
  running : m.activity = .script c
  /-- The instruction is what comes next. -/
  front : ∃ back, c.rest = i.encode ++ back
  /-- There is no fault. -/
  completed : ∃ outcome, (Action.dispatch.run m).result = .ok outcome

namespace Machine.Completes

variable {m : Machine κ} {i : Instruction} {c : Cursor}

theorem machine_dispatch (h : m.Completes i c) (htable : m.table = .core) :
    (Action.dispatch.run m).machine = i.effect (c.advance i.opcode.size) m := by
  obtain ⟨back, hback⟩ := h.front
  obtain ⟨outcome, houtcome⟩ := h.completed
  have hunit := Action.run_dispatch_of_instruction htable hback
  have hmeaning := i.run_heeding_execute (c.advance i.opcode.size) m
  rw [movedTo_of_activity h.running] at hunit
  rw [hunit] at houtcome ⊢
  rcases hcheck : i.check (c.advance i.opcode.size) m with e | _
  · rw [hcheck] at hmeaning
    cases hmeaning.1.symm.trans houtcome
  · rw [hcheck] at hmeaning
    exact hmeaning.2

end Machine.Completes

/-- The next dispatch unit completes a comparison of the bank with the value. -/
def Machine.Compares (m : Machine κ) (bank : UInt8) (value : UInt32) : Prop :=
  ∃ c, m.Completes (.compareBank bank value) c

theorem Machine.not_compares_of_head? {m : Machine κ} {c : Cursor}
    (hactivity : m.activity = .script c) (hhead : c.rest.head? ≠ some Opcode.compareBank.toByte)
    (bank : UInt8) (value : UInt32) : ¬m.Compares bank value := by
  rintro ⟨place, hrunning, ⟨back, hback⟩, -⟩
  cases Activity.script.inj (hactivity.symm.trans hrunning)
  exact hhead (congrArg List.head? hback)

namespace Action

variable {m : Machine κ}

theorem comparison_dispatch_of_compares (htable : m.table = .core) {bank : UInt8} {value : UInt32}
    (h : m.Compares bank value) :
    (dispatch.run m).machine.comparison = comparisonOf (m.bank bank) value := by
  obtain ⟨c, hcompletes⟩ := h
  rw [hcompletes.machine_dispatch htable]
  rfl

/-- **A unit that completes no comparison leaves the comparison result alone.** -/
theorem comparison_dispatch_of_not_compares (htable : m.table = .core)
    (h : ∀ bank value, ¬m.Compares bank value) :
    (dispatch.run m).machine.comparison = m.comparison := by
  by_cases hmode : m.mode = .normal
  · obtain ⟨c, hc⟩ := Machine.exists_eq_movedTo_of_mode hmode
    have hactivity : m.activity = .script c := congrArg (·.activity) hc
    rcases dispatch_cases htable hactivity with ⟨-, -, hmachine⟩ | ⟨e, d, -, hmachine, -⟩ |
      ⟨i, back, hback, -, hresult, hmachine⟩
    · rw [hmachine]
      rfl
    · rw [hmachine]
      rfl
    · rw [hmachine]
      refine Instruction.comparison_effect (fun bank value hi ↦ ?_) _ m
      exact h bank value ⟨c, hactivity, ⟨back, hi ▸ hback⟩, i.outcome, hresult⟩
  · rw [run_dispatch_of_idle hmode]

theorem isComparison_dispatch (htable : m.table = .core) (h : IsComparison m.comparison) :
    IsComparison (dispatch.run m).machine.comparison := by
  by_cases hcompares : ∃ bank value, m.Compares bank value
  · obtain ⟨bank, value, hcompares⟩ := hcompares
    rw [comparison_dispatch_of_compares htable hcompares]
    exact isComparison_comparisonOf _ value
  · simp only [not_exists] at hcompares
    rw [comparison_dispatch_of_not_compares htable hcompares]
    exact h

end Action

/-! ## The relay -/

/-- The comparison result that a deed leaves. -/
def Deed.left : Deed κ → UInt8
  | unit m => (Action.dispatch.run m).machine.comparison
  | poll m => m.comparison

/-- The deeds hand the comparison result on, from the first one to the last: each of them finds what
the one before has left, and the core table. -/
def Relay : (first : UInt8) → List (Deed κ) → (last : UInt8) → Prop
  | first, [], last => first = last
  | first, deed :: others, last =>
    deed.machine.table = .core ∧ deed.machine.comparison = first ∧ Relay deed.left others last

namespace Relay

variable {first last : UInt8} {deed : Deed κ} {deeds front back : List (Deed κ)}

theorem append_iff :
    Relay first (front ++ back) last ↔
      ∃ middle, Relay first front middle ∧ Relay middle back last := by
  induction front generalizing first with
  | nil => exact ⟨fun h ↦ ⟨first, rfl, h⟩, fun ⟨_, hfirst, h⟩ ↦ hfirst ▸ h⟩
  | cons deed others ih =>
    constructor
    · rintro ⟨htable, hfirst, hothers⟩
      obtain ⟨middle, hfront, hback⟩ := ih.mp hothers
      exact ⟨middle, ⟨htable, hfirst, hfront⟩, hback⟩
    · rintro ⟨middle, ⟨htable, hfirst, hfront⟩, hback⟩
      exact ⟨htable, hfirst, ih.mpr ⟨middle, hfront, hback⟩⟩

theorem trans {middle : UInt8} (hfront : Relay first front middle)
    (hback : Relay middle back last) : Relay first (front ++ back) last :=
  append_iff.mpr ⟨middle, hfront, hback⟩

theorem isComparison (h : Relay first deeds last) (hfirst : IsComparison first) :
    IsComparison last ∧ ∀ deed ∈ deeds, IsComparison deed.machine.comparison := by
  induction deeds generalizing first with
  | nil =>
    cases h
    exact ⟨hfirst, List.forall_mem_nil _⟩
  | cons deed others ih =>
    obtain ⟨htable, rfl, hothers⟩ := h
    have hleft : IsComparison deed.left := by
      rcases deed with m | m
      · exact Action.isComparison_dispatch htable hfirst
      · exact hfirst
    obtain ⟨hlast, hrest⟩ := ih hothers hleft
    exact ⟨hlast, List.forall_mem_cons.mpr ⟨hfirst, hrest⟩⟩

theorem eq_of_not_compares (h : Relay first deeds last)
    (hnone : ∀ m, .unit m ∈ deeds → ∀ bank value, ¬m.Compares bank value) : first = last := by
  induction deeds generalizing first with
  | nil => exact h
  | cons deed others ih =>
    obtain ⟨htable, rfl, hothers⟩ := h
    have hleft : deed.left = deed.machine.comparison := by
      rcases deed with m | m
      · exact Action.comparison_dispatch_of_not_compares htable (hnone m List.mem_cons_self)
      · rfl
    rw [← hleft]
    exact ih hothers fun m hm ↦ hnone m (List.mem_cons_of_mem deed hm)

/-- **A unit finds what the last comparison before it has left.** -/
theorem comparison_of_compares {middle : List (Deed κ)} {n k : Machine κ}
    (h : Relay first (front ++ .unit n :: (middle ++ .unit k :: back)) last) {bank : UInt8}
    {value : UInt32} (hcompares : n.Compares bank value)
    (hnone : ∀ m, .unit m ∈ middle → ∀ bank value, ¬m.Compares bank value) :
    k.table = .core ∧ k.comparison = comparisonOf (n.bank bank) value := by
  obtain ⟨-, -, htable, -, hlater⟩ := append_iff.mp h
  obtain ⟨found, hmiddle, hcore, hfound, -⟩ := append_iff.mp hlater
  refine ⟨hcore, ?_⟩
  calc k.comparison = found := hfound
    _ = (Deed.unit n).left := (hmiddle.eq_of_not_compares hnone).symm
    _ = comparisonOf (n.bank bank) value :=
      Action.comparison_dispatch_of_compares htable hcompares

end Relay

/-! ## Steps -/

/-- The deeds hand the comparison result on to the machine, and it is bound to the core table. -/
structure RelayTo (first : UInt8) (deeds : List (Deed κ)) (m : Machine κ) : Prop where
  /-- The core table is bound. -/
  table : m.table = .core
  /-- The comparison result is the one handed on. -/
  relay : Relay first deeds m.comparison

namespace Machine

open EventScript.Action

variable {m : Machine κ}

theorem relayTo_dispatchUpTo (h : m.table = .core) (budget : Nat) :
    RelayTo m.comparison ((m.units budget).map .unit) ((dispatchUpTo budget).run m).machine := by
  rw [dispatchUpTo_eq_whileRunning]
  induction budget generalizing m with
  | zero => exact ⟨h, rfl⟩
  | succ budget ih =>
    by_cases hmore : (dispatch.run m).result = .ok .running ∧
        (dispatch.run m).machine.mode = .normal
    · obtain ⟨htable, hrelay⟩ := ih (table_dispatch h)
      rw [units_of_more hmore.1 hmore.2, run_whileRunning_of_more hmore.1 hmore.2]
      exact ⟨htable, h, rfl, hrelay⟩
    · rw [units_of_last hmore, run_whileRunning_of_no_more hmore]
      exact ⟨table_dispatch h, h, rfl, rfl⟩

/-- **The deeds of a step are a relay.** A fault that ends the step leaves the comparison result. -/
theorem relayTo_stepUpTo (h : m.table = .core) (budget : Nat) :
    RelayTo m.comparison (m.deeds budget) ((stepUpTo budget).run m).machine := by
  rcases henabled : m.enabled with _ | _
  · rw [deeds_of_disabled henabled, run_stepUpTo_of_disabled henabled]
    exact ⟨h, rfl⟩
  rcases hactivity : m.activity with _ | c | task
  · rw [deeds_of_paused hactivity, run_stepUpTo_of_paused hactivity]
    exact ⟨h, rfl⟩
  · have hbatch := relayTo_dispatchUpTo h budget
    have hstep : (stepUpTo budget).run m = (catching (dispatchUpTo budget)).run m := by
      rw [← movedTo_of_activity hactivity]
      exact run_stepUpTo_of_script henabled budget
    rw [deeds_of_script henabled hactivity, hstep]
    rcases hresult : ((dispatchUpTo budget).run m).result with e | outcome
    · rw [run_catching_of_error hresult]
      exact ⟨hbatch.table, hbatch.relay⟩
    · rw [run_catching_of_ok hresult]
      exact hbatch
  · rw [deeds_of_native henabled hactivity, run_stepUpTo_of_native henabled hactivity, pollNative]
    split <;> exact ⟨h, h, rfl, rfl⟩

end Machine

/-! ## Runs -/

/-- The turn binds no table but the core table and sets no comparison result. -/
def Turn.Impartial : Turn κ → Prop
  | act (.request r) => r.CoreOnly ∧ ∀ value, r ≠ .setComparison value
  | act .step | act .stepOnce | share _ => True

/-- What is done in the course of a turn. -/
def Turn.deeds (m : Machine κ) : Turn κ → List (Deed κ)
  | act operation => operation.deeds m
  | share _ => []

theorem Turn.relayTo {m : Machine κ} (h : m.table = .core) {turn : Turn κ}
    (hturn : turn.Impartial) : RelayTo m.comparison (turn.deeds m) (turn.after m) := by
  rcases turn with (r | _ | _) | temporaries
  · exact ⟨hturn.1.table h, (Request.comparison_eq hturn.2 m).symm⟩
  · rw [deeds, Operation.deeds, after, Operation.after, Action.run_step]
    exact Machine.relayTo_stepUpTo h m.stride
  · exact Machine.relayTo_stepUpTo h 1
  · exact ⟨h, rfl⟩

namespace Machine

/-- All that is done in the course of a sequence of turns. -/
def account (m : Machine κ) : List (Turn κ) → List (Deed κ)
  | [] => []
  | turn :: others => turn.deeds m ++ (turn.after m).account others

/-- **The account of a run is a relay.** -/
theorem relayTo_account {m : Machine κ} (h : m.table = .core) {turns : List (Turn κ)}
    (hturns : ∀ turn ∈ turns, turn.Impartial) :
    RelayTo m.comparison (m.account turns) (m.afterTurns turns) := by
  induction turns generalizing m with
  | nil => exact ⟨h, rfl⟩
  | cons turn others ih =>
    obtain ⟨hturn, hothers⟩ := List.forall_mem_cons.mp hturns
    have hfirst := Turn.relayTo h hturn
    have hlater := ih hfirst.table hothers
    exact ⟨hlater.table, hfirst.relay.trans hlater.relay⟩

/-- A context that was just created, with its settings and some temporaries. -/
def Fresh (m : Machine κ) : Prop := ∃ name config, m.toContext = Context.ofConfig name config

theorem fresh_new (name : String) : (Machine.new name : Machine κ).Fresh := ⟨name, {}, rfl⟩

end Machine

/-- **Branches follow the last comparison.** In a context that has run scripts under the core table
since it was created, the comparison result says less, equal or greater, and of a condition and its
opposite one holds. A conditional command that completes is taken if and only if its condition
relates the value that the bank held at the last completed comparison to the one it was compared
with, as unsigned numbers. -/
theorem branches_follow_last_comparison {m : Machine κ} (hfresh : m.Fresh) {turns : List (Turn κ)}
    (hturns : ∀ turn ∈ turns, turn.Impartial) :
    (∀ n, n = m.afterTurns turns ∨ (∃ deed ∈ m.account turns, deed.machine = n) →
      (n.comparison = 0 ∨ n.comparison = 1 ∨ n.comparison = 2) ∧
        ∀ condition : Condition,
          condition.opposite.holds n.comparison = !condition.holds n.comparison) ∧
    ∀ front middle back n k bank value,
      m.account turns = front ++ .unit n :: (middle ++ .unit k :: back) →
      n.Compares bank value →
      (∀ between, .unit between ∈ middle → ∀ bank value, ¬between.Compares bank value) →
      ∀ condition address c,
        (k.Completes (.gotoIf condition address) c →
          (Action.dispatch.run k).machine =
            if condition.Relates (n.bank bank) value then k.movedTo ⟨c.script, address.toNat⟩
            else k.movedTo (c.advance 6)) ∧
        (k.Completes (.callIf condition address) c →
          (Action.dispatch.run k).machine =
            if condition.Relates (n.bank bank) value then k.called (c.advance 6) address
            else k.movedTo (c.advance 6)) := by
  obtain ⟨name, config, hcontext⟩ := hfresh
  have htable : m.table = .core := congrArg (·.table) hcontext
  have hcomparison : m.comparison = 0 := congrArg (·.comparison) hcontext
  have hrelay : Relay m.comparison (m.account turns) (m.afterTurns turns).comparison :=
    (Machine.relayTo_account htable hturns).relay
  refine ⟨fun n hn ↦ ?_, ?_⟩
  · obtain ⟨hlast, hdeeds⟩ := hrelay.isComparison (.inl hcomparison)
    have hbyte : IsComparison n.comparison := by
      rcases hn with rfl | ⟨deed, hdeed, rfl⟩
      · exact hlast
      · exact hdeeds deed hdeed
    exact ⟨hbyte, Condition.holds_opposite hbyte⟩
  · intro front middle back n k bank value haccount hcompares hnone condition address c
    rw [haccount] at hrelay
    obtain ⟨hcore, hfound⟩ := hrelay.comparison_of_compares hcompares hnone
    have hholds : condition.holds k.comparison = true ↔ condition.Relates (n.bank bank) value := by
      rw [hfound, Condition.holds_comparisonOf_iff]
    constructor
    · intro hcompletes
      rw [hcompletes.machine_dispatch hcore, Instruction.effect]
      simp only [hholds]
      rfl
    · intro hcompletes
      rw [hcompletes.machine_dispatch hcore, Instruction.effect]
      simp only [hholds]
      rfl

/-- Five is compared with seven; then the bank gets nine, and a return faults. -/
def comparingScript : Script :=
  .ofBytes 0 [0x07, 0x00, 0x05, 0x00, 0x00, 0x00, 0x08, 0x00, 0x07, 0x00, 0x00, 0x00,
    0x07, 0x00, 0x09, 0x00, 0x00, 0x00, 0x02]

/-- A jump to the last byte, for less. -/
def branchingScript : Script := .ofBytes 1 [0x05, 0x00, 0x07, 0x00, 0x00, 0x00, 0x00, 0x01]

/-- The two scripts one after the other. -/
def comparingThenBranching : List (Turn Opcode) :=
  [.act (.request (.start comparingScript .core)), .act .step, .act .step, .act .step, .act .step,
    .act (.request (.start branchingScript .core)), .act .step]

/-- The machine after so many of the turns. -/
def branchingAfter (count : Nat) : Machine Opcode :=
  (Machine.new "primary").afterTurns (comparingThenBranching.take count)

/-- The jump is taken in the second script, because five is less than seven, although the bank has
nine by then and the first script has ended in a fault. -/
theorem branches_follow_last_comparison_across_scripts :
    (branchingAfter 5).lastFault = some .stackUnderflow ∧
      (branchingAfter 6).banks = #v[9, 0, 0, 0] ∧
      (Action.dispatch.run (branchingAfter 6)).machine =
        (branchingAfter 6).movedTo ⟨branchingScript, 7⟩ := by
  have hturns : ∀ turn ∈ comparingThenBranching, turn.Impartial := by
    simp [comparingThenBranching, Turn.Impartial, Request.CoreOnly]
  have haccount : (Machine.new "primary").account comparingThenBranching =
      [.unit (branchingAfter 1)] ++ .unit (branchingAfter 2) ::
        ([.unit (branchingAfter 3), .unit (branchingAfter 4)] ++ [.unit (branchingAfter 6)]) := by
    rfl
  have hcompares : (branchingAfter 2).Compares 0 7 :=
    ⟨⟨comparingScript, 6⟩, by rfl, ⟨_, by rfl⟩, .running, by rfl⟩
  have hcompletes : (branchingAfter 6).Completes (.gotoIf .less 7) branchingScript.start :=
    ⟨by rfl, ⟨_, by rfl⟩, .running, by rfl⟩
  have hnone : ∀ between, .unit between ∈ [Deed.unit (branchingAfter 3), .unit (branchingAfter 4)] →
      ∀ bank value, ¬between.Compares bank value := by
    intro between hbetween
    simp only [List.mem_cons, Deed.unit.injEq, List.not_mem_nil, or_false] at hbetween
    rcases hbetween with rfl | rfl
    · exact Machine.not_compares_of_head? (c := ⟨comparingScript, 12⟩) (by rfl) (by decide)
    · exact Machine.not_compares_of_head? (c := ⟨comparingScript, 18⟩) (by rfl) (by decide)
  obtain ⟨-, hbranch⟩ := branches_follow_last_comparison (Machine.fresh_new "primary") hturns
  have hjump := (hbranch _ _ _ _ _ _ _ haccount hcompares hnone .less 7 branchingScript.start).1
    hcompletes
  exact ⟨by rfl, by rfl, hjump⟩

end EventScript
