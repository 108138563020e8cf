import Friendship.Service.Relations

/-!
# Histories of a store

A history is what befalls a store in memory from the time it is empty: calls of the service, and
accounts that come and go, each at its own time. `reachable_iff` says that the stores which
histories lead to are those that steps lead to one by one, so what every step keeps holds after
every history. A chronicle tells of more: plans of anybody, for the rows of any pair, and tasks that
fail while they hold the store.
-/

namespace Friendship

namespace Service

/-- What may befall a store. -/
inductive Step
  | call (call : Call)
  | insertAccount (id : AccountId) (username : String) (avatar : Int32)
  | deleteAccount (id : AccountId)
  deriving DecidableEq

/-- The answer to a step; what is no call for a friend list answers with an empty one. -/
abbrev Answer := Logged (Except RelationError (List Friend))

/-- A change of the accounts: a store takes it or stays as it is. -/
def changed (s : Store) : Except RelationError Store → Answer × Store
  | .error e => (⟨.error e, []⟩, s)
  | .ok next => (⟨.ok [], []⟩, next)

/-- Carries a step out at a given time. -/
def Step.carryOut (policy : Policy) (now : Instant) (s : Store) : Step → Answer × Store
  | .call c => Service.call (.memory now) policy s c
  | .insertAccount id username avatar => changed s (s.insertAccount id username avatar)
  | .deleteAccount id => changed s (s.deleteAccount id)

end Service

/-- Steps in order, each with its time. -/
abbrev History := List (Instant × Service.Step)

namespace History

/-- The answers to the steps, and the store after them. -/
def run (policy : Policy) (s : Store) : History → List Service.Answer × Store
  | [] => ([], s)
  | (now, step) :: rest =>
    let (answer, s) := step.carryOut policy now s
    let (answers, s) := run policy s rest
    (answer :: answers, s)

/-- The store after a history. -/
def store (policy : Policy) (s : Store) (history : History) : Store :=
  (history.run policy s).2

/-- All that was logged in a history. -/
def log (policy : Policy) (s : Store) (history : History) : List Log.Event :=
  (history.run policy s).1.flatMap Logged.log

/-- A step of a history: when it came, what it found, what it was answered, and what it left. -/
structure Moment where
  now : Instant
  step : Service.Step
  before : Store
  answer : Service.Answer
  after : Store

/-- The moment of a step that finds a store at a given time. -/
abbrev Moment.of (policy : Policy) (now : Instant) (s : Store) (step : Service.Step) : Moment :=
  ⟨now, step, s, (step.carryOut policy now s).1, (step.carryOut policy now s).2⟩

/-- The steps of a history, in order. -/
def moments (policy : Policy) (s : Store) : History → List Moment
  | [] => []
  | (now, step) :: rest =>
    let (answer, next) := step.carryOut policy now s
    ⟨now, step, s, answer, next⟩ :: moments policy next rest

@[simp] theorem store_nil (policy : Policy) (s : Store) : store policy s [] = s := rfl

@[simp] theorem store_cons (policy : Policy) (s : Store) (now : Instant) (step : Service.Step)
    (rest : History) :
    store policy s ((now, step) :: rest) = store policy (step.carryOut policy now s).2 rest := rfl

@[simp] theorem log_nil (policy : Policy) (s : Store) : log policy s [] = [] := rfl

@[simp] theorem log_cons (policy : Policy) (s : Store) (now : Instant) (step : Service.Step)
    (rest : History) :
    log policy s ((now, step) :: rest) =
      (step.carryOut policy now s).1.log ++ log policy (step.carryOut policy now s).2 rest := rfl

@[simp] theorem moments_nil (policy : Policy) (s : Store) : moments policy s [] = [] := rfl

@[simp] theorem moments_cons (policy : Policy) (s : Store) (now : Instant) (step : Service.Step)
    (rest : History) :
    moments policy s ((now, step) :: rest) =
      ⟨now, step, s, (step.carryOut policy now s).1, (step.carryOut policy now s).2⟩ ::
        moments policy (step.carryOut policy now s).2 rest := rfl

/-- What each step keeps of its store and the moments so far is kept by a history. -/
theorem moments_induction {policy : Policy} {P : List Moment → Store → Prop}
    (hstep : ∀ done s now step, P done s →
      P (done ++ [⟨now, step, s, (step.carryOut policy now s).1, (step.carryOut policy now s).2⟩])
        (step.carryOut policy now s).2)
    (done : List Moment) (s : Store) (h : P done s) (history : History) :
    P (done ++ history.moments policy s) (history.store policy s) := by
  induction history generalizing done s with
  | nil => simpa using h
  | cons first rest ih =>
    obtain ⟨now, step⟩ := first
    simpa using ih _ _ (hstep done s now step h)

theorem store_append (policy : Policy) (s : Store) (before rest : History) :
    store policy s (before ++ rest) = store policy (store policy s before) rest := by
  induction before generalizing s with
  | nil => rfl
  | cons first before ih => exact ih _

theorem moments_append (policy : Policy) (s : Store) (before rest : History) :
    moments policy s (before ++ rest) =
      moments policy s before ++ moments policy (store policy s before) rest := by
  induction before generalizing s with
  | nil => rfl
  | cons first before ih => exact congrArg _ (ih _)

/-- Each step of a history finds the store that the steps before it have left. -/
theorem mem_moments (policy : Policy) (s : Store) (earlier : History) (now : Instant)
    (step : Service.Step) (later : History) :
    ⟨now, step, store policy s earlier, (step.carryOut policy now (store policy s earlier)).1,
        (step.carryOut policy now (store policy s earlier)).2⟩ ∈
      moments policy s (earlier ++ (now, step) :: later) := by
  rw [moments_append, moments_cons]
  exact List.mem_append_right _ List.mem_cons_self

end History

namespace Store

/-- The stores that an empty one becomes by steps at any times. -/
inductive Reachable (policy : Policy) : Store → Prop
  | empty : Reachable policy .empty
  | step {s : Store} (before : Reachable policy s) (now : Instant) (step : Service.Step) :
    Reachable policy (step.carryOut policy now s).2

/-- No history leads away from the reachable stores. -/
theorem Reachable.after {policy : Policy} {s : Store} (h : Reachable policy s)
    (history : History) : Reachable policy (history.store policy s) := by
  induction history generalizing s with
  | nil => exact h
  | cons first rest ih => exact ih (.step h first.1 first.2)

theorem reachable_iff {policy : Policy} {s : Store} :
    Reachable policy s ↔ ∃ history : History, s = history.store policy .empty := by
  constructor
  · intro h
    induction h with
    | empty => exact ⟨[], rfl⟩
    | step _ now step ih =>
      obtain ⟨history, rfl⟩ := ih
      exact ⟨history ++ [(now, step)], by simp [History.store_append]⟩
  · rintro ⟨history, rfl⟩
    exact Reachable.empty.after history

end Store

namespace Service

/-- What may be done to a store. -/
inductive Deed
  /-- A step of a history. -/
  | step (policy : Policy) (taken : Step)
  /-- Somebody changes a pair by a plan. -/
  | mutate (p : DirectedPair) (planner : Planner)
  /-- A task fails while it holds the store. -/
  | fail

/-- The store that a deed leaves. -/
def Deed.carryOut (now : Instant) (s : Store) : Deed → Store
  | .step policy taken => (taken.carryOut policy now s).2
  | .mutate p planner => (s.mutatePair now p planner).2
  | .fail => s.poison

end Service

/-- Deeds in order, each with its time. -/
abbrev Chronicle := List (Instant × Service.Deed)

/-- The store after a chronicle. -/
def Chronicle.store (s : Store) : Chronicle → Store
  | [] => s
  | (now, deed) :: rest => Chronicle.store (deed.carryOut now s) rest

end Friendship
