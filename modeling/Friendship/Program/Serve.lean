import Friendship.Network.SocketAddress
import Friendship.Program.Console

/-!
# The server program

The program reads its command line and its settings, starts the server and listens until it is
interrupted. Then it stops the server.
-/

namespace Friendship.Program

variable {σ : Type}

namespace Serve

/-- The part of the program that these events come from. -/
def logTarget : String := "amity"

/-- A file for encryption must be a regular file. -/
def checkFile (files : Files) (path : String) : Run Unit :=
  match files path.toList with
  | .file _ => pure ()
  | .directory | .device =>
    .fail ("TLS file is not a regular file: " ++ Text.Quoted.ofString path) []
  | .missing => .fail "No such file or directory (os error 2)" []
  | .blocked => .fail "Not a directory (os error 20)" []
  | .tooLong => .fail "File name too long (os error 36)" []
  | .noPath => .fail "file name contained an unexpected NUL byte" []

/-- Whether connections are encrypted; the files for it are given together or not at all. -/
def isEncrypted (files : Files) (settings : Settings.Http) : Run Bool := do
  match settings.certPath, settings.keyPath with
  | some cert, some key =>
    checkFile files cert
    checkFile files key
    pure true
  | none, none => pure false
  | _, _ => .fail "http.cert_path and http.key_path must be set together" []

/-- What is told when the server begins to listen. -/
def listening (encrypted : Bool) (address : Network.SocketAddress) : Log.Event :=
  let fields := [("address", Log.Value.shown address.text)]
  if encrypted then ⟨.info, logTarget, some "listening with TLS", fields⟩
  else ⟨.warn, logTarget, some "listening without TLS", fields⟩

/-- The settings that the command line names, with their log filter in force. -/
def settings (env : Environment σ) : Run Settings := do
  let path ← Run.readArguments env
  Run.beginLog env
  let settings ← Run.loadSettings env path
  Run.tell ⟨.info, logTarget, none, [("project_settings", .shown settings.shown)]⟩
  Run.changeFilter settings.log.filter
  pure settings

/-- Where the server listens, and whether connections are encrypted. -/
def endpoint (env : Environment σ) (settings : Settings) :
    Run (Network.SocketAddress × Bool) := do
  match Network.SocketAddress.read? settings.http.address with
  | none => .fail "invalid socket address syntax" []
  | some address => do pure (address, ← isEncrypted env.files settings.http)

/-- What came of starting the server, which is logged. -/
def running (started : Server.Started σ) : Run (Server.Running σ) := do
  modify fun c => { c with exchanges := started.connection.exchanges }
  Run.tellAll started.log
  match started.result with
  | .ok running => pure running
  | .error e => .fail e.message e.causes

/-- Stops the server after an interrupt. -/
def finish (running : Server.Running σ) : Run Unit := do
  Run.tellAll running.shutdown
  Run.tell ⟨.info, logTarget, some "server shutdown successfully", []⟩

end Serve

/-- Starts the server, if the settings are in order, with a database in a given state. -/
def launch (env : Environment σ) (state : σ) : Run (Server.Running σ) := do
  let settings ← Serve.settings env
  let (address, encrypted) ← Serve.endpoint env settings
  let running ← Serve.running (Server.start env.server state settings)
  Run.tell (Serve.listening encrypted address)
  pure running

/-- The server program, interrupted as soon as it listens. -/
def serve (env : Environment σ) (state : σ) : Run Unit := do
  let running ← launch env state
  Serve.finish running

end Friendship.Program
