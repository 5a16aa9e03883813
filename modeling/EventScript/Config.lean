import EventScript.Command

/-!
# Engine configuration

Settings of the two contexts of a host. A budget of zero instructions is refused when a
configuration is validated; a context built from settings that were never validated runs at least
one. -/

namespace EventScript

/-- The version of the engine. -/
def version : String := "0.1.0"

/-- Settings of one context. -/
structure ContextConfig where
  /-- Whether the context may be started. -/
  enabled : Bool := true
  /-- How far a step goes. -/
  policy : Policy := .singleInstruction
  /-- The most instructions in one step. -/
  budget : Nat := defaultBudget
  deriving DecidableEq

/-- Settings of a host. -/
structure EngineConfig where
  /-- The context of regular scripts. -/
  primary : ContextConfig := {}
  /-- The context of level and cutscene scripts. -/
  level : ContextConfig := {}
  deriving DecidableEq

/-- Why a configuration was refused. -/
inductive ConfigError where
  /-- The file cannot be read. -/
  | unreadable (path reason : String)
  /-- The text is no TOML document of the right shape. -/
  | malformed
  /-- The settings cannot be written as TOML. -/
  | unwritable
  /-- A setting has a forbidden value. -/
  | invalid (field reason : String)
  deriving DecidableEq

/-- The wording of a refusal. -/
def ConfigError.message : ConfigError → String
  | unreadable path reason => "failed to read config file " ++ path ++ ": " ++ reason
  | malformed => "failed to parse config"
  | unwritable => "failed to serialize config"
  | invalid field reason => "invalid config value for `" ++ field ++ "`: " ++ reason

/-- Refuses a budget of zero. -/
def ContextConfig.validate (c : ContextConfig) (field : String) : Except ConfigError Unit :=
  if c.budget = 0 then .error (.invalid field "max_instructions_per_tick must be at least 1")
  else .ok ()

/-- Refuses a budget of zero, in the primary context first. -/
def EngineConfig.validate (c : EngineConfig) : Except ConfigError Unit := do
  c.primary.validate "primary.max_instructions_per_tick"
  c.level.validate "level.max_instructions_per_tick"

/-- A paused context with the given settings. -/
def Context.ofConfig {κ : Type} [CommandSet κ] (name : String) (config : ContextConfig) :
    Context κ :=
  { Context.new name with
    enabled := config.enabled
    policy := config.policy
    budget := max 1 config.budget }

end EventScript
