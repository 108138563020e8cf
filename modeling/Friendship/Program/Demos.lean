import Friendship.Program.Console

/-!
# Demonstrations

Small programs that show how log filters, settings and the relation service work.
-/

namespace Friendship.Program

variable {σ : Type}

namespace LogDemo

/-- The part of the program that most events come from. -/
def logTarget : String := "logger_demo"

/-- The part that stands for the application. -/
def applicationTarget : String := "amity::demo"

def event (level : Log.Level) (target message : String) : Log.Event :=
  ⟨level, target, some message, []⟩

end LogDemo

open LogDemo in
/-- Shows the filter at first, the filter of the settings, and a last one. -/
def logDemo (env : Environment σ) : Run Unit := do
  Run.beginLog env
  Run.tellAll
    [event .trace logTarget "bootstrap trace log", event .debug logTarget "bootstrap debug log",
      event .info logTarget "bootstrap info log"]
  let path ← Run.readArguments env
  let settings ← Run.loadSettings env path
  Run.changeFilter settings.log.filter
  Run.tell ⟨.info, logTarget, some "filter reloaded", [("filter", .shown settings.log.filter)]⟩
  Run.tellAll
    [event .trace applicationTarget "application trace log",
      event .debug applicationTarget "application debug log",
      event .info applicationTarget "application info log"]
  Run.changeFilter "warn"
  Run.tellAll
    [event .info logTarget "hidden after reload to warn", event .warn logTarget "still visible"]

/-- Shows the settings at the default path, a path that leads nowhere, and the settings that the
command line names. -/
def settingsDemo (env : Environment σ) : Run Unit := do
  let first ← Run.loadSettings env none
  Run.printLine ("Loaded settings: " ++ first.shown)
  let failed := !(Settings.load env.files (some "")).isOk
  Run.printLine ("Error on invalid path: " ++ Text.Shown.boolean failed)
  let path ← Run.readArguments env
  let settings ← Run.loadSettings env path
  Run.printLine ("store backend: " ++ settings.store.backend)
  Run.printLine ("auth backend: " ++ settings.auth.backend)
  Run.printLine ("social policy: " ++ settings.social.shown)

namespace SocialDemo

/-- A friend list as names with statuses. -/
def viewText (friends : List Friend) : String :=
  Text.Shown.list (friends.map fun f => Text.Shown.string (f.username ++ ":" ++ f.status.text))

/-- Prints what an account sees. -/
def view (now : Instant) (store : Store) (name : String) (id : AccountId) : Run Unit :=
  match (Service.friends (.memory now) {} store id).1 with
  | .ok friends => Run.printLine ("  " ++ name ++ " sees " ++ viewText friends)
  | .error e => Run.printLine ("  " ++ name ++ " sees error: " ++ e.message)

/-- Announces a transition and carries it out. -/
def step (now : Instant) (store : Store) (title : String) (t : Transition) : Run Store := do
  Run.printLine title
  let (done, store) := Service.perform (.memory now) {} store t
  Run.tellAll done.log
  Run.orFail RelationError.message done.value
  pure store

end SocialDemo

open SocialDemo in
/-- Leads two accounts through all transitions and shows what each of them sees. -/
def socialDemo (now : Instant) (john kate : AccountId) : Run Unit := do
  Run.changeFilter "amity=debug"
  let store ← Run.orFail RelationError.message (Store.empty.insertAccount john "john" 1)
  let store ← Run.orFail RelationError.message (store.insertAccount kate "kate" 2)
  let store ← step now store "john -> kate: add" ⟨.addFriend, john, kate⟩
  view now store "john" john
  view now store "kate" kate
  let store ← step now store "kate accepts john" ⟨.acceptFriend, kate, john⟩
  view now store "john" john
  view now store "kate" kate
  let store ← step now store "john blocks kate" ⟨.blockFriend, john, kate⟩
  view now store "kate" kate
  let store ← step now store "john unblocks kate" ⟨.unblockFriend, john, kate⟩
  view now store "kate" kate
  let store ← step now store "kate removes john" ⟨.removeFriend, kate, john⟩
  let rows ← Run.orFail RelationError.message store.listRows
  Run.printLine s!"  rows left: {rows.length}"

end Friendship.Program
