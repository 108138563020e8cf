import Friendship.Http.Api
import Friendship.Identity.PlainToken
import Friendship.Identity.SignedToken

/-!
# Running servers

A server that was started has a store, in memory or in a database, a way to verify tokens, and a
relation policy.
-/

namespace Friendship.Server

/-- How tokens are verified. -/
inductive Identity
  /-- The token tells the account, and is believed. -/
  | plain
  | signed (policy : TokenPolicy)

/-- The verifier at a time in seconds since 1970. -/
def Identity.verifier (now : Int) : Identity → Verifier
  | plain => PlainToken.verify
  | signed policy => SignedToken.verify policy now

/-- Where the store is. -/
inductive Home (σ : Type)
  | memory (store : Store)
  | database (connection : Backend.Connection σ)

namespace Home

variable {σ : Type}

/-- The backend over either store. -/
def backend (now : Instant) (server : Database.Server σ) : Backend (Home σ) where
  mutatePair home p planner :=
    match home with
    | memory s => ((Backend.memory now).mutatePair s p planner).map id memory
    | database c => ((Backend.database server).mutatePair c p planner).map id database
  listVisible home owner :=
    match home with
    | memory s => ((Backend.memory now).listVisible s owner).map id memory
    | database c => ((Backend.database server).listVisible c owner).map id database
  accountExists home account :=
    match home with
    | memory s => ((Backend.memory now).accountExists s account).map id memory
    | database c => ((Backend.database server).accountExists c account).map id database

end Home

structure Running (σ : Type) where
  home : Home σ
  identity : Identity
  policy : Policy

/-- The part of the program that starts and stops servers. -/
def logTarget : String := "amity::server::server"

namespace Running

variable {σ : Type}

/-- Answers a request at a time. -/
def answer (now : Instant) (server : Database.Server σ) (r : Running σ) (request : Http.Request) :
    Logged Http.Reply × Running σ :=
  let (reply, home) :=
    Http.answer (r.identity.verifier now.second) (Home.backend now server) r.policy r.home request
  (reply, { r with home })

/-- What is told when a server is stopped. -/
def shutdown (r : Running σ) : List Log.Event :=
  ⟨.info, logTarget, some "server shutting down...", []⟩ ::
    match r.home with
    | .memory _ => []
    | .database _ => [⟨.info, logTarget, some "mysql pool closed", []⟩]

end Running
end Friendship.Server
