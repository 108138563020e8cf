import Friendship.Log.Filter
import Friendship.Log.Line
import Friendship.Program.CommandLine
import Friendship.Server.Start
import Friendship.Settings.Load

/-!
# What programs print

A program prints texts and log lines to its output, faults to its error output, and ends with an
exit code. Log lines are printed as the filter in force tells.
-/

namespace Friendship.Program

/-- What a program finds where it is run. -/
structure Environment (σ : Type) where
  /-- The name under which the program was called. -/
  name : String
  arguments : List String := []
  files : Files
  /-- The filter that log lines are to be printed with at first. -/
  logFilter : Option String := none
  server : Server.Surroundings σ := {}

/-- What was printed and sent so far, and the filter in force. -/
structure Console where
  out : String := ""
  err : String := ""
  filter : Log.Filter := .upTo .info
  /-- What was said to a database. -/
  exchanges : List Database.Exchange := []

/-- A piece of a program, which may end it with an exit code. -/
abbrev Run (α : Type) := ExceptT Nat (StateM Console) α

namespace Run

variable {α ε : Type}

def printLine (line : String) : Run Unit :=
  modify fun c => { c with out := c.out ++ line ++ "\n" }

def tell (event : Log.Event) : Run Unit := do
  if (← get).filter.admits event then printLine event.line

def tellAll : List Log.Event → Run Unit
  | [] => pure ()
  | e :: rest => do tell e; tellAll rest

/-- A text whose later lines begin below the first one. -/
def hanging (indent : String) (text : String) : String := text.replace "\n" ("\n" ++ indent)

/-- The faults that an error comes from; several are numbered. -/
def causesText (causes : List String) : String :=
  match causes with
  | [] => ""
  | [cause] => "\n\nCaused by:\n    " ++ hanging "    " cause
  | _ =>
    let numbered := causes.zipIdx.map fun (cause, i) => s!"\n    {i}: " ++ hanging "       " cause
    "\n\nCaused by:" ++ String.join numbered

/-- Tells an error and ends the program. -/
def fail (message : String) (causes : List String) : Run α := do
  modify fun c => { c with err := c.err ++ "Error: " ++ message ++ causesText causes ++ "\n" }
  throw 1

/-- Goes on with a result, or fails. -/
def orFail (message : ε → String) (result : Except ε α) : Run α :=
  match result with
  | .ok a => pure a
  | .error e => fail (message e) []

/-- Ends the program as the command line says. -/
def stop (name : String) (reason : CommandLine.Stop) : Run α := do
  let text := reason.message name
  modify fun c =>
    if reason.exitCode = 0 then { c with out := c.out ++ text } else { c with err := c.err ++ text }
  throw reason.exitCode

/-- The path of the settings file that the command line names. -/
def readArguments {σ : Type} (env : Environment σ) : Run (Option String) :=
  match CommandLine.read env.arguments with
  | .ok path => pure path
  | .error reason => stop env.name reason

def loadSettings {σ : Type} (env : Environment σ) (path : Option String) : Run Settings :=
  orFail Settings.LoadError.message (Settings.load env.files path)

/-- The filter at first: the one of the environment if it can be read. -/
def firstFilter (wanted : Option String) : Log.Filter :=
  match wanted.map Log.Filter.read with
  | some (.ok filter) => filter
  | some (.error _) | none => .upTo .info

def beginLog {σ : Type} (env : Environment σ) : Run Unit :=
  modify fun c => { c with filter := firstFilter env.logFilter }

/-- Puts another filter in force. -/
def changeFilter (text : String) : Run Unit :=
  match Log.Filter.read text with
  | .ok filter => modify fun c => { c with filter }
  | .error e => fail e.message e.causes

end Run

/-- What a program printed and sent, and its exit code. -/
structure Outcome where
  console : Console
  exitCode : Nat

/-- Runs a piece of a program on a console. -/
def runFrom {α : Type} (console : Console) (program : Run α) : Except Nat α × Console :=
  (ExceptT.run program).run console

/-- Runs a program. -/
def outcome (program : Run Unit) : Outcome :=
  match runFrom {} program with
  | (.ok (), console) => ⟨console, 0⟩
  | (.error code, console) => ⟨console, code⟩

end Friendship.Program
