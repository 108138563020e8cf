import Friendship.Database.Statement

/-!
# Dialogues with a server

A dialogue sends statements one after another, each possibly depending on the answers so far,
and ends with a result. A server answers each statement with a value of the statement's type or
with a failure. Running a dialogue against a server gives the result together with everything
that was sent and answered.
-/

namespace Friendship.Database

inductive Dialogue (α : Type) where
  | done (result : α)
  | ask (statement : Statement) (next : Except QueryError statement.Answer → Dialogue α)

/-- A server with a state of its own. -/
structure Server (σ : Type) where
  answer : σ → (q : Statement) → Except QueryError q.Answer × σ

/-- A statement and its answer. -/
structure Exchange where
  statement : Statement
  answer : Except QueryError statement.Answer

/-- Whether the statement succeeded. -/
def Exchange.succeeded (e : Exchange) : Bool := e.answer.isOk

/-- All that happened in a dialogue. -/
structure Transcript (σ α : Type) where
  result : α
  exchanges : List Exchange
  /-- The server afterwards. -/
  server : σ

/-- The statements that were sent. -/
def Transcript.statements {σ α : Type} (t : Transcript σ α) : List Statement :=
  t.exchanges.map Exchange.statement

namespace Dialogue

variable {σ α β : Type}

/-- Goes on with another dialogue. -/
def bind : Dialogue α → (α → Dialogue β) → Dialogue β
  | done a, f => f a
  | ask q next, f => ask q fun answer => (next answer).bind f

instance : Monad Dialogue where
  pure := done
  bind := bind

@[simp] theorem pure_eq_done (a : α) : (pure a : Dialogue α) = done a := rfl

@[simp] theorem done_bind (a : α) (f : α → Dialogue β) : (done a >>= f) = f a := rfl

@[simp] theorem ask_bind (q : Statement) (next : Except QueryError q.Answer → Dialogue α)
    (f : α → Dialogue β) : (ask q next >>= f) = ask q fun answer => next answer >>= f := rfl

/-- Sends one statement. -/
def send (q : Statement) : Dialogue (Except QueryError q.Answer) := ask q done

def run (server : Server σ) : Dialogue α → σ → Transcript σ α
  | done a, s => ⟨a, [], s⟩
  | ask q next, s =>
    let (answer, s) := server.answer s q
    let rest := (next answer).run server s
    ⟨rest.result, ⟨q, answer⟩ :: rest.exchanges, rest.server⟩

@[simp] theorem run_done (server : Server σ) (a : α) (s : σ) :
    (done a).run server s = ⟨a, [], s⟩ := rfl

theorem run_bind (server : Server σ) (d : Dialogue α) (f : α → Dialogue β) (s : σ) :
    (d >>= f).run server s =
      let first := d.run server s
      let rest := (f first.result).run server first.server
      ⟨rest.result, first.exchanges ++ rest.exchanges, rest.server⟩ := by
  induction d generalizing s with
  | done a => simp
  | ask q next ih => simp [run, ih]

end Dialogue
end Friendship.Database
