/-!
# Dispatch policies

How many instructions a context may run in one tick: one, or as many as a budget allows until a
command suspends the script.
-/

namespace EventScript

/-- How far one step of a context goes. -/
inductive Policy where
  /-- One instruction for each step. -/
  | singleInstruction
  /-- Instruction after instruction until one suspends, the script ends or leaves normal mode, or
  the budget is spent. -/
  | untilSuspend
  deriving DecidableEq

namespace Policy

/-- The spelling of a policy in configurations and messages. -/
def text : Policy → String
  | singleInstruction => "single-instruction"
  | untilSuspend => "until-suspend"

/-- The policy of exactly that spelling. -/
def ofText? (text : String) : Option Policy :=
  if text = "single-instruction" then some singleInstruction
  else if text = "until-suspend" then some untilSuspend
  else none

/-- The policy meant by a word given by hand, in any case. Mapping the ASCII letters is enough: no
other character has a lower-case form that is a letter of one of these words. -/
def ofWord? (word : String) : Option Policy :=
  match word.map Char.toLower with
  | "single" | "single-instruction" | "step" => some singleInstruction
  | "until-suspend" | "until_suspend" | "run" => some untilSuspend
  | _ => none

/-- The refusal of a word that means no policy. -/
def unknownMessage (word : String) : String := "Unknown dispatch policy: " ++ word

/-- The name of a policy in inspection texts. -/
def inspect : Policy → String
  | singleInstruction => "SingleInstruction"
  | untilSuspend => "UntilSuspend"

@[simp] theorem ofText?_text (p : Policy) : ofText? p.text = some p := by
  cases p <;> simp [ofText?, text]

end Policy

end EventScript
