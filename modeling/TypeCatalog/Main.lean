import TypeCatalog.Inspect.Run

/-!
# The program

Reads the files that an invocation names and the environment, and prints what the run gives.
-/

namespace TypeCatalog.Inspect

/-- Reads a file from disk. -/
def readFromDisk (path : String) : IO (Except FileError ByteArray) := do
  try
    return .ok (← IO.FS.readBinFile path)
  catch e =>
    match e with
    | .noFileOrDirectory .. => return .error .notFound
    | .permissionDenied .. => return .error .permissionDenied
    | .inappropriateType _ 20 _ => return .error .notDirectory
    | .inappropriateType .. => return .error .isDirectory
    | .invalidArgument _ 36 _ => return .error .tooLong
    | e => return .error (.other (toString e))

/-- Whether a regular file stands at a path. -/
def isRegularFile (path : String) : IO Bool := do
  try
    let entry : IO.FS.DirEntry := ⟨".", path⟩
    return (← entry.path.metadata).type == .file
  catch _ => return false

/-- What stands at the path of a snapshot file, which may be anything that can be read. -/
def snapshotNode (path : String) : IO Node := do
  return ⟨← readFromDisk path, ← isRegularFile path⟩

/-- What stands at the path of a settings file, which is read only if it is a regular file. -/
def settingsNode (path : String) : IO Node := do
  if ← isRegularFile path then return ⟨← readFromDisk path, true⟩
  else return ⟨.error .notFound, false⟩

/-- What stands at the paths that an invocation names, as it is now. The snapshot file is left alone
if the settings file is not there. -/
def readFiles (args : List String) : IO (String → Node) := do
  match Invocation.ofArguments args with
  | .error _ => return fun _ => ⟨.error .notFound, false⟩
  | .ok i =>
    let settings ← i.config.toList.mapM fun path => do return (path, ← settingsNode path)
    let snapshot ←
      if settings.all fun entry => entry.2.isFile then pure [(i.path, ← snapshotNode i.path)]
      else pure []
    return fun path => ((settings ++ snapshot).lookup path).getD ⟨.error .notFound, false⟩

/-- A variable from its name, an equals sign and its value. -/
def splitVariable (text : List Char) : String × String :=
  (String.ofList (text.takeWhile (· != '=')), String.ofList ((text.dropWhile (· != '=')).drop 1))

/-- The variables of the environment. -/
def readEnvironment : IO (List (String × String)) := do
  match ← readFromDisk "/proc/self/environ" with
  | .error _ => return []
  | .ok content =>
    let texts := ((String.fromUTF8? content).getD "").toList.splitOn '\x00'
    return (texts.filter fun text => !text.isEmpty).map splitVariable

end TypeCatalog.Inspect

open TypeCatalog.Inspect in
/-- Runs the program. -/
def main (args : List String) : IO UInt32 := do
  let files ← readFiles args
  let environment ← readEnvironment
  let terminal ← (← IO.getStdout).isTty
  let outcome := run ⟨files, environment, terminal⟩ args
  IO.print outcome.stdout
  IO.eprint outcome.stderr
  return outcome.exit.toUInt32
