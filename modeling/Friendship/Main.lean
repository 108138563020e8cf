import Friendship.Program.Serve

/-!
# The server program as a command

The command looks at the files that the run may ask for, starts the server and prints what the
run prints. While the server listens it waits for its input to end; then it stops the server.
-/

namespace Friendship.Command

/-- What a failure to read a path tells about it. -/
def entryOfError : IO.Error → Entry
  | .inappropriateType _ 21 _ => .directory
  | .inappropriateType .. => .blocked
  | .invalidArgument _ 36 _ => .tooLong
  | _ => .missing

/-- What stands at a path of the file system. -/
def look (path : String) : IO (String × Entry) := do
  if Path.isText path.toList then
    try
      pure (path, .file (← IO.FS.readFile path))
    catch e => pure (path, entryOfError e)
  else pure (path, .noPath)

/-- The files that were looked at. -/
def seen (entries : List (String × Entry)) : Files := fun path =>
  (entries.lookup (String.ofList path)).getD .missing

/-- Where the settings may be. -/
def settingsPaths (path : Option String) : List String :=
  let path := path.getD Settings.defaultPath
  path :: (Settings.candidates path.toList).map fun (path, _) => String.ofList path

/-- The files for encryption that the settings name. -/
def encryptionPaths (files : Files) (path : Option String) : List String :=
  match Settings.load files path with
  | .ok settings => settings.http.certPath.toList ++ settings.http.keyPath.toList
  | .error _ => []

/-- All files that a run with given arguments may ask for. -/
def files (arguments : List String) : IO Files := do
  match CommandLine.read arguments with
  | .error _ => pure (seen [])
  | .ok path =>
    let settings ← (settingsPaths path).mapM look
    let encryption ← (encryptionPaths (seen settings) path).mapM look
    pure (seen (settings ++ encryption))

def environment (arguments : List String) : IO (Program.Environment Unit) := do
  let files ← files arguments
  let logFilter ← IO.getEnv "RUST_LOG"
  let signingKey ← IO.getEnv Server.signingKeyVariable
  pure { name := "amity", arguments, files, logFilter, server := { signingKey } }

def print (console : Program.Console) : IO Unit := do
  IO.print console.out
  IO.eprint console.err

/-- Reads on until the input ends. -/
partial def awaitEnd (input : IO.FS.Stream) : IO Unit := do
  if !(← input.getLine).isEmpty then awaitEnd input

end Friendship.Command

open Friendship in
def main (arguments : List String) : IO UInt32 := do
  let environment ← Command.environment arguments
  let (launched, console) := Program.runFrom {} (Program.launch environment ())
  Command.print console
  match launched with
  | .error code => pure (UInt32.ofNat code)
  | .ok running =>
    (← IO.getStdout).flush
    Command.awaitEnd (← IO.getStdin)
    let stopping := { console with out := "", err := "" }
    Command.print (Program.runFrom stopping (Program.Serve.finish running)).2
    pure 0
