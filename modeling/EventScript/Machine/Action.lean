import EventScript.Machine.Event

/-!
# Actions

Everything done to a machine is an action: it answers with a value or a fault, leaves a machine
behind and reports events on the way. A fault does not undo what was done before it, so the machine
and the events are part of the reply in both cases.

Actions form a monad in which a fault skips the rest. The equations `run_pure` and `run_bind` are
all that reasoning about a sequence of actions needs.
-/

namespace EventScript

/-- What an action gives. -/
structure Reply (κ α : Type) where
  /-- The answer. -/
  result : Except Fault α
  /-- The machine left behind. -/
  machine : Machine κ
  /-- What was reported, in order. -/
  events : List Event := []

/-- Something done to a machine. -/
structure Action (κ α : Type) where
  /-- Does it. -/
  run : Machine κ → Reply κ α

namespace Action

variable {κ α β γ : Type}

@[ext] theorem ext {a b : Action κ α} (h : ∀ m, a.run m = b.run m) : a = b := by
  cases a
  cases b
  congr
  exact funext h

/-- Answers without touching anything. -/
@[inline] protected def pure (a : α) : Action κ α := ⟨fun m ↦ ⟨.ok a, m, []⟩⟩

/-- Refuses without touching anything. -/
@[inline] def fail (e : Fault) : Action κ α := ⟨fun m ↦ ⟨.error e, m, []⟩⟩

/-- One action after another; a fault of the first is the fault of both. -/
@[inline] protected def bind (a : Action κ α) (f : α → Action κ β) : Action κ β :=
  ⟨fun m ↦
    let first := a.run m
    match first.result with
    | .ok x =>
      let second := (f x).run first.machine
      ⟨second.result, second.machine, first.events ++ second.events⟩
    | .error e => ⟨.error e, first.machine, first.events⟩⟩

@[always_inline] instance : Monad (Action κ) where
  pure := Action.pure
  bind := Action.bind

/-- The machine as it is. -/
@[inline] def machine : Action κ (Machine κ) := ⟨fun m ↦ ⟨.ok m, m, []⟩⟩

/-- Changes the context. -/
@[inline] def modify (f : Context κ → Context κ) : Action κ Unit :=
  ⟨fun m ↦ ⟨.ok (), { m with toContext := f m.toContext }, []⟩⟩

/-- Reports an event. -/
@[inline] def report (e : Event) : Action κ Unit := ⟨fun m ↦ ⟨.ok (), m, [e]⟩⟩

/-- Answers as a finished computation did. -/
@[inline] def ofExcept (x : Except Fault α) : Action κ α := ⟨fun m ↦ ⟨x, m, []⟩⟩

@[simp] theorem run_pure (a : α) (m : Machine κ) : (pure a : Action κ α).run m = ⟨.ok a, m, []⟩ :=
  rfl

@[simp] theorem run_fail (e : Fault) (m : Machine κ) :
    (fail e : Action κ α).run m = ⟨.error e, m, []⟩ := rfl

@[simp] theorem run_machine (m : Machine κ) : (machine : Action κ _).run m = ⟨.ok m, m, []⟩ := rfl

@[simp] theorem run_modify (f : Context κ → Context κ) (m : Machine κ) :
    (modify f).run m = ⟨.ok (), { m with toContext := f m.toContext }, []⟩ := rfl

@[simp] theorem run_report (e : Event) (m : Machine κ) :
    (report e : Action κ Unit).run m = ⟨.ok (), m, [e]⟩ := rfl

theorem run_bind (a : Action κ α) (f : α → Action κ β) (m : Machine κ) :
    (a >>= f).run m =
      match (a.run m).result with
      | .ok x =>
        ⟨((f x).run (a.run m).machine).result, ((f x).run (a.run m).machine).machine,
          (a.run m).events ++ ((f x).run (a.run m).machine).events⟩
      | .error e => ⟨.error e, (a.run m).machine, (a.run m).events⟩ := rfl

theorem run_bind_of_ok {a : Action κ α} {f : α → Action κ β} {m : Machine κ} {x : α}
    (h : (a.run m).result = .ok x) :
    (a >>= f).run m =
      ⟨((f x).run (a.run m).machine).result, ((f x).run (a.run m).machine).machine,
        (a.run m).events ++ ((f x).run (a.run m).machine).events⟩ := by
  rw [run_bind, h]

theorem run_bind_of_error {a : Action κ α} {f : α → Action κ β} {m : Machine κ} {e : Fault}
    (h : (a.run m).result = .error e) :
    (a >>= f).run m = ⟨.error e, (a.run m).machine, (a.run m).events⟩ := by
  rw [run_bind, h]

instance : LawfulMonad (Action κ) := LawfulMonad.mk' (Action κ)
  (by
    intro α x
    ext m
    change (x >>= fun a ↦ pure a).run m = x.run m
    rw [run_bind]
    rcases hx : x.run m with ⟨result, machine, events⟩
    cases result <;> simp)
  (by
    intro α β a f
    ext m
    simp [run_bind])
  (by
    intro α β γ x f g
    ext m
    simp only [run_bind]
    rcases hx : x.run m with ⟨result, machine, events⟩
    cases result with
    | error e => rfl
    | ok a =>
      rcases hf : (f a).run machine with ⟨result, machine, events⟩
      cases result with
      | error e => simp [hf]
      | ok b => simp [hf])

end Action

end EventScript
