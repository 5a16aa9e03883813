/-!
# Log records

The engine reports what it does as records with a level, the part of the engine that speaks, a
message and sometimes fields with values. A filter decides by the level, the source and the names of
the fields which records are shown.
-/

namespace EventScript.Log

/-- How important a record is, the most important last. -/
inductive Level where
  | trace
  | debug
  | info
  | warn
  | error
  deriving DecidableEq

/-- The level as it is written in front of a record. -/
def Level.label : Level → String
  | trace => "TRACE"
  | debug => "DEBUG"
  | info => "INFO"
  | warn => "WARN"
  | error => "ERROR"

/-- How much a level lets through: the number of levels shown. -/
def Level.verbosity : Level → Nat
  | error => 1
  | warn => 2
  | info => 3
  | debug => 4
  | trace => 5

/-- The part of the engine that speaks. -/
inductive Source where
  /-- A script context. -/
  | context
  /-- The host of the contexts. -/
  | host
  /-- The debugger. -/
  | debugger
  /-- The command line. -/
  | commandLine
  deriving DecidableEq

/-- The path by which filters name a source. -/
def Source.path : Source → String
  | context => "overworld_vm::execution_context"
  | host => "overworld_vm::host"
  | debugger => "overworld_vm::debugger"
  | commandLine => "overworld"

/-- The names of the fields that every record of a source has besides its message. They say where
the record was made and are not written. -/
def Source.hiddenFields : Source → List String
  | context | host | debugger => ["log.target", "log.module_path", "log.file", "log.line"]
  | commandLine => []

/-- One line of the log. -/
structure Record where
  /-- Its importance. -/
  level : Level
  /-- Who speaks. -/
  source : Source
  /-- What is said. -/
  message : String
  /-- The names and values that go with it. -/
  fields : List (String × String)
  deriving DecidableEq

namespace Record

/-- The message with the fields after it. -/
def text (r : Record) : String :=
  r.message ++ String.join (r.fields.map fun (name, value) ↦ " " ++ name ++ "=" ++ value)

/-- The names by which filters find a record. The message itself is a field. -/
def fieldNames (r : Record) : List String :=
  "message" :: (r.source.hiddenFields ++ r.fields.map Prod.fst)

/-- The record without its source. -/
def brief (r : Record) : String := r.level.label ++ " " ++ r.text

/-- The record with its source. -/
def line (r : Record) : String := r.level.label ++ " " ++ r.source.path ++ ": " ++ r.text

end Record

end EventScript.Log
