import EventScript.Config
import EventScript.Toml.Document
import EventScript.Toml.Plain

/-!
# Configurations as TOML

Writes a configuration as a document with one table for each context and one line for each setting,
and reads a configuration from any document. A setting that is not given has its default, and keys
that mean nothing here are passed over.

Both ways lead through libraries: one turns configurations into tables and tables into text, and
back. What is written here is over any such `ConfigFormat`; the program is built with
`ConfigFormat.standard`.

The reader of that format is generous in three ways. The settings of a context may stand in an
array, in the order in which they are written, with what is missing at its default and what is too
much ignored. A date in place of the settings of a context gives none of them. A policy may be given
as a table whose only key is the policy and whose only value is empty.
-/

namespace EventScript

open Toml

/-! ## Settings as values -/

/-- A setting of a context. -/
inductive Setting where
  | enabled
  | dispatch
  | budget
  deriving DecidableEq

namespace Setting

/-- The settings in the order in which they are written. -/
def all : List Setting := [enabled, dispatch, budget]

/-- The name of a setting in a document. -/
def key : Setting → String
  | enabled => "enabled"
  | dispatch => "dispatch"
  | budget => "max_instructions_per_tick"

end Setting

/-- A name in camel case, in lower case and with hyphens between its words. -/
def kebabCase (name : String) : String :=
  match name.toList with
  | [] => ""
  | first :: others =>
    String.ofList (first.toLower :: others.flatMap fun c ↦
      if c.isUpper then ['-', c.toLower] else [c])

/-- The value that a setting is written as. -/
def ContextConfig.atom (c : ContextConfig) : Setting → Atom
  | .enabled => .boolean c.enabled
  | .dispatch => .text (kebabCase c.policy.inspect)
  | .budget => .number c.budget

/-- The settings with their names. -/
def ContextConfig.fields (c : ContextConfig) : List (String × Atom) :=
  Setting.all.map fun s ↦ (s.key, c.atom s)

/-- The tables of a configuration. -/
def EngineConfig.tables (c : EngineConfig) : Tables :=
  [("primary", c.primary.fields), ("level", c.level.fields)]

/-! ## Values as settings -/

/-- A truth value. -/
def boolean? : Value → Option Bool
  | .boolean b => some b
  | _ => none

/-- A number of instructions. -/
def count? : Value → Option Nat
  | .integer (.ofNat n) => some n
  | _ => none

/-- An array or table without content. -/
def isVoid : Value → Bool
  | .array items | .tables items => items.isEmpty
  | .table _ entries => entries.isEmpty
  | _ => false

/-- A policy by its spelling. -/
def policy? : Value → Option Policy
  | .text s => Policy.ofText? s
  | .table _ [(key, value)] => if isVoid value then Policy.ofText? key else none
  | _ => none

/-- A setting that may be missing. -/
def setting {α : Type} (read : Value → Option α) (default : α) : Option Value → Option α
  | none => some default
  | some value => read value

namespace ContextConfig

/-- The settings found by a look-up. -/
def ofSettings? (enabled policy budget : Option Value) : Option ContextConfig := do
  let enabled ← setting boolean? true enabled
  let policy ← setting policy? .singleInstruction policy
  let budget ← setting count? defaultBudget budget
  return { enabled, policy, budget }

/-- The settings of one context. -/
def ofToml? : Value → Option ContextConfig
  | .table _ entries =>
    let get (s : Setting) : Option Value := Entries.get? entries s.key
    ofSettings? (get .enabled) (get .dispatch) (get .budget)
  | .array items | .tables items => ofSettings? items[0]? items[1]? items[2]?
  | .dateTime => some {}
  | _ => none

end ContextConfig

/-- The settings in the entries of a document. -/
def EngineConfig.ofEntries? (entries : Entries) : Option EngineConfig := do
  let primary ← setting ContextConfig.ofToml? {} (entries.get? "primary")
  let level ← setting ContextConfig.ofToml? {} (entries.get? "level")
  return { primary, level }

/-! ## Writing and reading -/

/-- How configurations become text and text becomes configurations. -/
structure ConfigFormat where
  /-- The tables of a configuration. -/
  serialize : EngineConfig → Tables
  /-- The document of tables. -/
  write? : Tables → Option String
  /-- The entries of a document. -/
  read? : String → Option Entries
  /-- The configuration in the entries of a document. -/
  deserialize? : Entries → Option EngineConfig

/-- The format of the program. -/
def ConfigFormat.standard : ConfigFormat where
  serialize := EngineConfig.tables
  write? := Tables.write?
  read? := Toml.parse?
  deserialize? := EngineConfig.ofEntries?

namespace EngineConfig

/-- Reads and validates a configuration. -/
def ofToml (text : String) (format : ConfigFormat := .standard) :
    Except ConfigError EngineConfig :=
  match (format.read? text).bind format.deserialize? with
  | none => .error .malformed
  | some config => do
    config.validate
    return config

/-- Writes a configuration. -/
def toToml (c : EngineConfig) (format : ConfigFormat := .standard) : Except ConfigError String :=
  match format.write? (format.serialize c) with
  | none => .error .unwritable
  | some text => .ok text

end EngineConfig

end EventScript
