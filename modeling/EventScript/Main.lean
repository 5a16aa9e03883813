import EventScript.Session

/-!
# The program

Fetches the environment and the files the session asks for, and prints what the session comes to.
-/

namespace EventScript.Session

/-- The failure to read a file as the system reports it. The number of the failure comes as it is or
negated. -/
def fileError : IO.Error → FileError
  | .noFileOrDirectory .. => .notFound
  | .inappropriateType _ code _ =>
    if code = 20 ∨ -code = 20 then .notDirectory else .isDirectory
  | .invalidArgument (some _) code details =>
    if code = 36 ∨ -code = 36 then .nameTooLong else .other details
  | e => .other (toString e)

/-- Reads a file. -/
def fetch (path : String) : IO (String × Except FileError (List UInt8)) := do
  try
    let bytes ← IO.FS.readBinFile path
    return (path, .ok bytes.toList)
  catch e =>
    return (path, .error (fileError e))

/-- The files named by the arguments, read one by one. -/
def fetchFiles (args : List String) (configVariable : Option String) : IO Files := do
  let paths := match CommandLine.parse args configVariable with
    | .ok options => options.config.toList ++ [options.file]
    | .error _ => []
  let contents ← paths.mapM fetch
  return ⟨fun path ↦
    match contents.find? fun entry ↦ entry.1 == path with
    | some (_, content) => content
    | none => .error .notFound⟩

end EventScript.Session

open EventScript in
/-- The command line. -/
def main (args : List String) : IO UInt32 := do
  let configVariable ← IO.getEnv "OVERWORLD_CONFIG"
  let filterVariable ← IO.getEnv "RUST_LOG"
  let files ← Session.fetchFiles args configVariable
  let result := Session.run args ⟨configVariable, filterVariable, files⟩ .standard
  for line in result.output do
    IO.println line
  for line in result.errors do
    IO.eprintln line
  return UInt32.ofNat result.exit
