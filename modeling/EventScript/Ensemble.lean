import EventScript.Host

/-!
# Ensembles

Any number of contexts, each with temporaries of its own or bound to one common pool. A bound
context reads and writes the pool, and its own set rests.
-/

namespace EventScript

/-- A machine that may be bound to a common pool of temporaries. -/
structure Member (κ : Type) extends Machine κ where
  /-- The machine uses the pool in place of its own temporaries. -/
  bound : Bool := false

/-- Machines around a common pool of temporaries. -/
structure Ensemble (κ : Type) where
  /-- The machines. -/
  members : List (Member κ)
  /-- The common temporaries. -/
  pool : Temporaries := .zero

namespace Ensemble

variable {κ α : Type}

/-- A member with the temporaries it sees. -/
def view (e : Ensemble κ) (member : Member κ) : Machine κ :=
  if member.bound then { member.toContext with temporaries := e.pool } else member.toMachine

/-- The member of an index with the temporaries it sees. -/
def machine? (e : Ensemble κ) (index : Nat) : Option (Machine κ) := e.members[index]?.map e.view

/-- Binds a member to the pool. -/
def bind (e : Ensemble κ) (index : Nat) : Ensemble κ :=
  { e with members := e.members.modify index fun member ↦ { member with bound := true } }

/-- Acts on a member. -/
def act (e : Ensemble κ) (index : Nat) (a : Action κ α) :
    Option (Logged (Ensemble κ) (Except Fault α)) :=
  e.members[index]?.map fun member ↦
    let reply := a.run (e.view member)
    let moved : Ensemble κ :=
      if member.bound then
        { members := e.members.set index { member with toContext := reply.machine.toContext }
          pool := reply.machine.temporaries }
      else
        { e with members := e.members.set index { member with toMachine := reply.machine } }
    ⟨reply.result, moved, reply.events.map (·.record member.name)⟩

end Ensemble

end EventScript
