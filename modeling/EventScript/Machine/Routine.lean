import EventScript.Machine.Operations

/-!
# Routines

What a command does, as data. A routine is a finite program of requests to the machine that runs it;
after each request it goes on according to the answer, which may be a refusal. It ends by telling
whether the script proceeds or suspends, or with a fault.

Because routines are data, a statement about all commands is an induction on `Program`, and each of
its cases is a statement about one operation.

A command table names commands. A `CommandSet` is a type of names together with the routine of each,
among them the commands of the core instruction set.
-/

namespace EventScript

/-- An operation that a routine may ask for. -/
inductive Request (κ : Type) where
  /-- A look at the context. -/
  | look
  | start (script : Script) (table : CommandTable κ)
  | startNative (task : NativeTask)
  | resume
  | stop
  | runNative (task : NativeTask)
  | call (target : Cursor)
  | ret
  | jump (target : Cursor)
  | setTable (table : CommandTable κ)
  | swapTable (table : CommandTable κ)
  | readU8
  | readU16
  | readU32
  | readTarget
  | readBank (bank : Nat)
  | writeBank (bank : Nat) (value : UInt32)
  | readTemporary (id : UInt16)
  | writeTemporary (id value : UInt16)
  | setComparison (value : UInt8)
  | setEnabled (enabled : Bool)
  | setInputControl (enabled : Bool)
  | setDirection (direction : UInt8)
  | setPolicy (policy : Policy)

namespace Request

variable {κ : Type}

/-- The kind of answer a request gets. -/
abbrev Answer : Request κ → Type
  | look => Context κ
  | swapTable _ => CommandTable κ
  | readU8 => UInt8
  | readU16 => UInt16
  | readU32 => UInt32
  | readTarget => Cursor
  | readBank _ => UInt32
  | readTemporary _ => UInt16
  | _ => Unit

/-- Carries out a request. -/
def perform : (r : Request κ) → Action κ r.Answer
  | look => do
    let m ← Action.machine
    return m.toContext
  | start script table => Action.start script table
  | startNative task => Action.startNative task
  | resume => Action.resume
  | stop => Action.stop
  | runNative task => Action.runNative task
  | call target => Action.call target
  | ret => Action.ret
  | jump target => Action.jump target
  | setTable table => Action.setTable table
  | swapTable table => Action.swapTable table
  | readU8 => Action.readU8
  | readU16 => Action.readU16
  | readU32 => Action.readU32
  | readTarget => Action.readTarget
  | readBank bank => Action.readBank bank
  | writeBank bank value => Action.writeBank bank value
  | readTemporary id => Action.readTemporary id
  | writeTemporary id value => Action.writeTemporary id value
  | setComparison value => Action.setComparison value
  | setEnabled enabled => Action.setEnabled enabled
  | setInputControl enabled => Action.setInputControl enabled
  | setDirection direction => Action.setDirection direction
  | setPolicy policy => Action.setPolicy policy

end Request

/-- A finite program of requests. -/
inductive Program (κ α : Type) where
  /-- Finished, with a value. -/
  | done (a : α)
  /-- Finished, with a fault. -/
  | fail (e : Fault)
  /-- A request, and what to do with its answer. -/
  | ask (request : Request κ) (next : Except Fault request.Answer → Program κ α)

/-- What a command says to the script it belongs to. -/
inductive Verdict where
  /-- Go on with the next instruction. -/
  | proceed
  /-- Wait until the host resumes the script. -/
  | suspend
  deriving DecidableEq

/-- What a command does. -/
abbrev Routine (κ : Type) : Type := Program κ Verdict

namespace Program

variable {κ α β : Type}

/-- One program after another. -/
protected def bind : Program κ α → (α → Program κ β) → Program κ β
  | done a, f => f a
  | fail e, _ => fail e
  | ask request next, f => ask request fun answer ↦ (next answer).bind f

instance : Monad (Program κ) where
  pure := done
  bind := Program.bind

/-- Makes a request; a refusal ends the program. -/
def send (request : Request κ) : Program κ request.Answer :=
  ask request fun answer ↦
    match answer with
    | .ok a => done a
    | .error e => fail e

/-- Makes a request and goes on even if it is refused. -/
def attempt (request : Request κ) : Program κ (Except Fault request.Answer) := ask request done

/-- Carries out a program, request by request. -/
def perform : Program κ α → Action κ α
  | done a => pure a
  | fail e => Action.fail e
  | ask request next =>
    ⟨fun m ↦
      let first := request.perform.run m
      let second := (next first.result).perform.run first.machine
      ⟨second.result, second.machine, first.events ++ second.events⟩⟩

theorem run_perform_ask (request : Request κ) (next : Except Fault request.Answer → Program κ α)
    (m : Machine κ) :
    (ask request next).perform.run m =
      ⟨((next (request.perform.run m).result).perform.run (request.perform.run m).machine).result,
        ((next (request.perform.run m).result).perform.run (request.perform.run m).machine).machine,
        (request.perform.run m).events ++
          ((next (request.perform.run m).result).perform.run
            (request.perform.run m).machine).events⟩ := rfl

@[simp] theorem perform_send (request : Request κ) : (send request).perform = request.perform := by
  ext m
  rw [send, run_perform_ask]
  rcases request.perform.run m with ⟨result, machine, events⟩
  cases result <;> simp [perform]

@[simp] theorem perform_bind (p : Program κ α) (f : α → Program κ β) :
    (p >>= f).perform = p.perform >>= fun a ↦ (f a).perform := by
  induction p with
  | done a =>
    change (f a).perform = _
    rw [perform, pure_bind]
  | fail e =>
    ext m
    rfl
  | ask request next ih =>
    ext m
    change (ask request fun answer ↦ next answer >>= f).perform.run m = _
    rw [run_perform_ask, ih, Action.run_bind, Action.run_bind, run_perform_ask]
    rcases (next (request.perform.run m).result).perform.run (request.perform.run m).machine with
      ⟨result, machine, events⟩
    cases result <;> simp

end Program

end EventScript
