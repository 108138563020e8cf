import Friendship.Text.Similarity
import Friendship.Text.Terminal

/-!
# The command line

A program takes the path of a settings file, and tells its usage or its version instead of
running if asked to. Arguments are read from left to right; the first fault counts. A value that
stands in an argument of its own is only settled when the next option or the end is reached.
-/

namespace Friendship.CommandLine

/-- The options with long names. -/
inductive Flag
  | settings
  | help
  | version
  deriving DecidableEq, Repr

namespace Flag

def all : List Flag := [settings, help, version]

def name : Flag → String
  | settings => "settings"
  | help => "help"
  | version => "version"

def ofName? (s : List Char) : Option Flag := all.find? fun flag => flag.name.toList = s

/-- The option as an argument. -/
def argument (flag : Flag) : String := "--" ++ flag.name

/-- The option with the value it takes. -/
def usage : Flag → String
  | settings => "--settings <SETTINGS>"
  | flag => flag.argument

/-- The option whose name is most similar to a text, if it is similar enough. -/
def similar? (s : List Char) : Option Flag :=
  let rated := all.map fun flag => (Text.Similarity.similarity s flag.name.toList, flag)
  let close := rated.filter fun (q, _) => !q.lt ⟨7, 10⟩
  (close.foldl (fun best x => if best.any fun b => x.1.lt b.1 then best else some x) none).map
    Prod.snd

end Flag

/-- Why a program does not go on. -/
inductive Stop
  | help
  | version
  | valueMissing
  | repeated
  /-- An argument that is not known, what may have been meant, and the options seen. -/
  | unknown (argument : String) (meant : Option Flag) (seen : List Flag)
  /-- A value for an option that takes none, and whether a settings file was named before. -/
  | needless (flag : Flag) (value : String) (named : Bool)
  deriving DecidableEq, Repr

/-- A value in an argument of its own. -/
inductive Pending
  | nothing
  | awaited
  | value (s : String)
  deriving DecidableEq, Repr

/-- What was read so far. -/
structure State where
  settings : Option String := none
  pending : Pending := .nothing
  deriving DecidableEq, Repr

namespace State

/-- Takes the value of the settings option. -/
def give (s : State) (value : String) : Except Stop State :=
  match s.settings with
  | some _ => .error .repeated
  | none => .ok ⟨some value, .nothing⟩

/-- Takes a value that is pending. -/
def settle (s : State) : Except Stop State :=
  match s.pending with
  | .nothing => .ok s
  | .awaited => .error .valueMissing
  | .value v => s.give v

/-- The options that have values, a pending value counting too; a second value takes the first one
back. -/
def known (s : State) : List Flag :=
  match s.settings, s.pending with
  | none, .value _ | some _, .nothing | some _, .awaited => [.settings]
  | some _, .value _ | none, .nothing | none, .awaited => []

end State

/-- The name and the value of an argument with two dashes. -/
def long? (cs : List Char) : Option (List Char × Option String) :=
  match cs with
  | '-' :: '-' :: rest =>
    let value := match rest.dropWhile (· ≠ '=') with
      | [] => none
      | _ :: v => some (String.ofList v)
    some (rest.takeWhile (· ≠ '='), value)
  | _ => none

/-- An option with a long name. -/
def readLong (s : State) (name : List Char) (value : Option String) : Except Stop State := do
  match Flag.ofName? name, value with
  | some .settings, some v => (← s.settle).give v
  | some .settings, none => pure { ← s.settle with pending := .awaited }
  | some flag, some v => throw (.needless flag v s.settings.isSome)
  | some flag, none =>
    let _ ← s.settle
    throw (if flag = .help then .help else .version)
  | none, _ =>
    let meant := Flag.similar? name
    let added := meant.toList.filter (!s.known.contains ·)
    throw (.unknown ("--" ++ String.ofList name) meant (s.known ++ added))

/-- Options with one letter stop the program whatever follows. -/
def readShort (s : State) (c : Char) : Except Stop State := do
  if c = 'h' then
    let _ ← s.settle
    throw .help
  else if c = 'V' then
    let _ ← s.settle
    throw .version
  else throw (.unknown (String.ofList ['-', c]) none [])

/-- An argument that is not an option. -/
def readPlain (s : State) (argument : String) : Except Stop State :=
  match s.pending with
  | .awaited => .ok { s with pending := .value argument }
  | .nothing | .value _ => .error (.unknown argument none [])

def readArgument (s : State) (argument : String) : Except Stop State :=
  match long? argument.toList, argument.toList with
  | some (name, value), _ => readLong s name value
  | none, '-' :: c :: _ => readShort s c
  | none, _ => readPlain s argument

/-- Reads arguments; behind two dashes there must be none. -/
def readFrom (s : State) : List String → Except Stop State
  | [] => s.settle
  | argument :: rest =>
    if argument = "--" then
      match rest with
      | [] => s.settle
      | next :: _ => .error (.unknown next none [])
    else do readFrom (← readArgument s argument) rest

/-- The path of the settings file, if one is given. -/
def read (arguments : List String) : Except Stop (Option String) :=
  (readFrom {} arguments).map State.settings

/-! ## Messages -/

/-- The line that tells the usage, given what may follow the program's name. -/
def usageOf (program : String) (options : List String) : String :=
  "Usage: " ++ " ".intercalate (program :: options) ++ "\n"

/-- The line that tells the usage, with the options seen. -/
def usageLine (program : String) (seen : List Flag) : String :=
  usageOf program (if seen.isEmpty then ["[OPTIONS]"] else seen.map Flag.usage)

def helpText (program : String) : String :=
  "Friend-relationship service\n\n" ++ usageLine program [] ++
    "\nOptions:\n" ++
    "      --settings <SETTINGS>  Path to a settings file; defaults to `settings/dev.toml` " ++
    "in debug builds and `settings/release.toml` otherwise\n" ++
    "  -h, --help                 Print help\n" ++
    "  -V, --version              Print version\n"

def versionText : String := "amity 0.1.0\n"

/-- A fault with what can be done about it. -/
def faultText (fault advice : String) : String :=
  "error: " ++ fault ++ "\n\n" ++ advice ++ "For more information, try '--help'.\n"

namespace Stop

open Text.Terminal (plain)

/-- What is printed; arguments are told without commands to the terminal. -/
def message (program : String) : Stop → String
  | help => helpText program
  | version => versionText
  | valueMissing =>
    faultText s!"a value is required for '{Flag.settings.usage}' but none was supplied" ""
  | repeated =>
    faultText s!"the argument '{Flag.settings.usage}' cannot be used multiple times"
      (usageLine program [] ++ "\n")
  | unknown argument meant seen =>
    let tip := meant.elim "" fun flag =>
      s!"  tip: a similar argument exists: '{flag.argument}'\n\n"
    faultText s!"unexpected argument '{plain argument}' found"
      (tip ++ usageLine program seen ++ "\n")
  | needless flag value named =>
    let others := if named then ["<" ++ Flag.settings.usage ++ ">"] else []
    faultText
      s!"unexpected value '{plain value}' for '{flag.argument}' found; no more were expected"
      (usageOf program (flag.argument :: others) ++ "\n")

/-- Help and version are not faults. -/
def exitCode : Stop → Nat
  | help | version => 0
  | valueMissing | repeated | unknown .. | needless .. => 2

end Stop
end Friendship.CommandLine
