import Friendship.Proofs.Service.Faults
import Mathlib.Data.List.Forall2

/-!
# Servers that fail for different reasons

Two servers may give the same answers and fail at the same statements, each for its own reasons. The
dialogues of the store do not depend on the reason of a failure, unless it is a foreign key's for a
row that is put: two such servers are sent the same statements, and what comes of it differs at most
in what is told of a fault of the store. `Dialogue.Parallel` relates two dialogues step by step, and
`parallel_mutatePair`, `discreet_listVisible` and `discreet_accountExists` are the three dialogues.
-/
namespace Friendship

/-- Two errors that differ at most in how the store failed. -/
inductive RelationError.Like : RelationError → RelationError → Prop
  | same (e : RelationError) : Like e e
  | internal (fault fault' : Fault) : Like (.internal fault) (.internal fault')

/-- Two results that differ at most in how the store failed. -/
inductive Indistinct {α : Type} : Except RelationError α → Except RelationError α → Prop
  | ok (a : α) : Indistinct (.ok a) (.ok a)
  | error {e e' : RelationError} (h : e.Like e') : Indistinct (.error e) (.error e')

namespace Indistinct

variable {α β : Type} {r r' : Except RelationError α}

theorem refl (r : Except RelationError α) : Indistinct r r := by
  cases r with
  | ok a => exact .ok a
  | error e => exact .error (.same e)

theorem map (f : α → β) (h : Indistinct r r') : Indistinct (r.map f) (r'.map f) := by
  cases h with
  | ok a => exact .ok (f a)
  | error h => exact .error h

theorem bind (f : α → Except RelationError β) (h : Indistinct r r') :
    Indistinct (r.bind f) (r'.bind f) := by
  cases h with
  | ok a => exact .refl (f a)
  | error h => exact .error h

end Indistinct

namespace Database

/-- A failure of the statements with a label that is not told outside. That of a foreign key, for a
row that is put, is told as a missing account. -/
def QueryError.Hidden (e : QueryError) (label : String) : Prop :=
  label = "PUT" → ¬ e.IsForeignKey

/-- Two answers to a statement that differ at most in a hidden failure. -/
inductive Veiled (q : Statement) : Except QueryError q.Answer → Except QueryError q.Answer → Prop
  | same (answer : Except QueryError q.Answer) : Veiled q answer answer
  | failed {e e' : QueryError} (he : e.Hidden q.label) (he' : e'.Hidden q.label) :
    Veiled q (.error e) (.error e')

/-- Whatever a failure to put a row says, if it is hidden it is told as a fault of the store. -/
theorem putError_of_hidden {row : DirectedPair} {status : Status} {e : QueryError}
    (he : e.Hidden (Statement.put row status).label) :
    putError row e = .internal (.query .putRow e) := by
  have hkey : e.foreignKey? = none := by
    rw [← Option.not_isSome_iff_eq_none, foreignKey?_isSome_iff]
    exact he rfl
  simp only [putError, hkey]

/-- Two dialogues that ask the same and end alike as long as their answers are veiled. -/
inductive Dialogue.Parallel {α : Type} (P : α → α → Prop) : Dialogue α → Dialogue α → Prop
  | done {a b : α} (h : P a b) : Parallel P (.done a) (.done b)
  | ask {q : Statement} {next next' : Except QueryError q.Answer → Dialogue α}
    (h : ∀ x y, Veiled q x y → Parallel P (next x) (next' y)) :
    Parallel P (.ask q next) (.ask q next')

/-- Two servers in step: in the same state they answer a statement alike but for a hidden failure,
and are left in the same state. -/
def Server.InStep {σ : Type} (server server' : Server σ) : Prop :=
  ∀ s q, Veiled q (server.answer s q).1 (server'.answer s q).1 ∧
    (server.answer s q).2 = (server'.answer s q).2

namespace Dialogue

variable {α β σ : Type} {P : α → α → Prop} {Q : β → β → Prop}

theorem Parallel.bind {d d' : Dialogue α} {f f' : α → Dialogue β} (h : d.Parallel P d')
    (hf : ∀ a b, P a b → (f a).Parallel Q (f' b)) : (d >>= f).Parallel Q (d' >>= f') := by
  induction h with
  | done h => exact hf _ _ h
  | ask _ ih => exact .ask fun x y hxy => ih x y hxy

/-- Parallel dialogues with servers in step end alike, and leave them in step. -/
theorem Parallel.run {server server' : Server σ} (hservers : server.InStep server')
    {d d' : Dialogue α} (h : d.Parallel P d') (s : σ) :
    P (d.run server s).result (d'.run server' s).result ∧
      (d.run server s).server = (d'.run server' s).server := by
  induction h generalizing s with
  | done h => exact ⟨h, rfl⟩
  | @ask q next next' h ih =>
    obtain ⟨hanswer, hstate⟩ := hservers s q
    simp only [Dialogue.run, hstate]
    exact ih _ _ hanswer _

end Dialogue

/-- A request whose end does not depend on hidden failures, but for what it tells of a fault. -/
def Request.Discreet {α : Type} (r : Request α) : Prop := r.run.Parallel Indistinct r.run

namespace Request

variable {α β : Type}

theorem discreet_pure (a : α) : (pure a : Request α).Discreet := .done (.ok a)

theorem discreet_throw (e : RelationError) : (throw e : Request α).Discreet :=
  .done (.error (.same e))

theorem discreet_ofExcept (r : Except RelationError α) : (liftM r : Request α).Discreet := by
  cases r <;> exact .done (.refl _)

theorem Discreet.bind {r : Request α} {f : α → Request β} (h : r.Discreet)
    (hf : ∀ a, (f a).Discreet) : (r >>= f).Discreet := by
  have hbind : (r >>= f).run = r.run >>= ExceptT.bindCont f := rfl
  rw [Discreet, hbind]
  refine Dialogue.Parallel.bind h fun x y hxy => ?_
  cases hxy with
  | ok a => exact hf a
  | error h => exact .done (.error h)

/-- A failure is told as a fault of the store, whatever it is. -/
theorem discreet_request (step : Step) (q : Statement) : (request step q).Discreet := by
  refine .ask fun x y hxy => .done ?_
  cases hxy with
  | same x => exact .refl _
  | failed he he' => exact .error (.internal _ _)

end Request

open Request

theorem discreet_write (w : Write) : (write w).Discreet := by
  cases w with
  | delete row => exact discreet_request _ _
  | put row status =>
    refine .ask fun x y hxy => .done ?_
    cases hxy with
    | same x => exact .refl _
    | failed he he' =>
      simp only [Except.mapError, putError_of_hidden he, putError_of_hidden he']
      exact .error (.internal _ _)

theorem discreet_writeAll (plan : List Write) : (writeAll plan).Discreet := by
  induction plan with
  | nil => exact discreet_pure ()
  | cons w plan ih => exact (discreet_write w).bind fun _ => ih

theorem discreet_checkRetired (p : DirectedPair) (plan : List Write) :
    (checkRetired p plan).Discreet := by
  unfold checkRetired
  split
  · refine (discreet_request _ _).bind fun retired => ?_
    cases retiredEnd? retired plan with
    | none => exact discreet_pure ()
    | some id => exact discreet_throw _
  · exact discreet_pure ()

theorem discreet_lockPair (p : DirectedPair) : (lockPair p).Discreet :=
  (discreet_request _ _).bind fun rows => discreet_ofExcept (snapshotOf p rows)

theorem discreet_carryOut (p : DirectedPair) (answer : Except RelationError (List Write)) :
    (carryOut p answer).Discreet := by
  refine (discreet_ofExcept answer).bind fun plan => ?_
  refine (discreet_checkRetired p plan).bind fun _ => ?_
  refine (discreet_writeAll plan).bind fun _ => ?_
  exact (discreet_request _ _).bind fun _ => discreet_pure _

theorem discreet_listVisible (owner : AccountId) : (listVisible owner).Discreet :=
  (discreet_request _ _).bind fun rows => discreet_ofExcept (readFriends rows)

theorem discreet_accountExists (id : AccountId) : (accountExists id).Discreet := by
  refine (discreet_request _ _).bind fun n => ?_
  cases n with
  | none => exact discreet_throw _
  | some n => exact discreet_pure _

/-- Nobody is told how a rollback ended. -/
theorem parallel_abandon (seen : Option Snapshot) {e e' : RelationError} (h : e.Like e') :
    (abandon seen e).Parallel (fun a b => Indistinct a.result b.result) (abandon seen e') :=
  .ask fun _ _ _ => .done (.error h)

theorem parallel_mutatePair (p : DirectedPair) (planner : Planner) :
    (mutatePair p planner).Parallel (fun a b => Indistinct a.result b.result)
      (mutatePair p planner) := by
  refine Dialogue.Parallel.bind (discreet_request _ _) fun opened opened' h => ?_
  cases h with
  | error h => exact .done (.error h)
  | ok =>
    refine Dialogue.Parallel.bind (discreet_lockPair p) fun shown shown' h => ?_
    cases h with
    | error h => exact parallel_abandon none h
    | ok seen =>
      refine Dialogue.Parallel.bind (discreet_carryOut p (planner seen)) fun done done' h => ?_
      cases h with
      | error h => exact parallel_abandon (some seen) h
      | ok n => exact .done (.ok n)

/-! ## Scripts -/

/-- What two scripts let one execution of the statements with a label fail with: the same, or
failures that are both hidden. -/
inductive FailsAlike (label : String) : Option ServerError → Option ServerError → Prop
  | same (failure : Option ServerError) : FailsAlike label failure failure
  | failed {e e' : ServerError} (he : (QueryError.server e).Hidden label)
    (he' : (QueryError.server e').Hidden label) : FailsAlike label (some e) (some e')

/-- Two scripts with the same rows that fail at the same executions, and differ at most in the
code, the state and the message of hidden failures. -/
structure Script.Alike (script script' : Script) : Prop where
  rows : script' = { script with failures := script'.failures }
  failures : List.Forall₂ (fun x y => x.1 = y.1 ∧ List.Forall₂ (FailsAlike x.1) x.2 y.2)
    script.failures script'.failures

namespace Script

variable {script script' : Script}

theorem failsAlike_getElem? {label : String} {failures failures' : List (Option ServerError)}
    (h : List.Forall₂ (FailsAlike label) failures failures') (n : Nat) :
    FailsAlike label failures[n]?.join failures'[n]?.join := by
  induction h generalizing n with
  | nil => exact .same _
  | cons hfirst _ ih =>
    cases n with
    | zero => exact hfirst
    | succ n => exact ih n

theorem failsAlike_lookup {failures failures' : List (String × List (Option ServerError))}
    (h : List.Forall₂ (fun x y => x.1 = y.1 ∧ List.Forall₂ (FailsAlike x.1) x.2 y.2)
      failures failures') (label : String) (n : Nat) :
    FailsAlike label ((failures.lookup label).bind fun executions => executions[n]?.join)
      ((failures'.lookup label).bind fun executions => executions[n]?.join) := by
  induction h with
  | nil => exact .same _
  | @cons x y _ _ hfirst _ ih =>
    obtain ⟨l, executions⟩ := x
    obtain ⟨l', executions'⟩ := y
    obtain ⟨rfl, hfirst⟩ := hfirst
    -- The labels are in the same places, so both look-ups stop here or both go on.
    simp only [List.lookup_cons]
    cases hlabel : label == l with
    | false => exact ih
    | true =>
      obtain rfl := beq_iff_eq.1 hlabel
      exact failsAlike_getElem? hfirst n

theorem Alike.failure? (h : script.Alike script') (sent : List String) (label : String) :
    FailsAlike label (script.failure? sent label) (script'.failure? sent label) :=
  failsAlike_lookup h.failures label (sent.count label)

theorem Alike.rowsFor (h : script.Alike script') (q : Statement) :
    script'.rowsFor q = script.rowsFor q := by
  rw [h.rows]
  rfl

/-- Servers that follow scripts alike are in step. -/
theorem Alike.inStep (h : script.Alike script') : script.server.InStep script'.server := by
  intro sent q
  refine ⟨?_, rfl⟩
  simp only [Script.server, h.rowsFor]
  have hfailure := h.failure? sent q.label
  generalize script.failure? sent q.label = failure at hfailure ⊢
  generalize script'.failure? sent q.label = failure' at hfailure ⊢
  cases hfailure with
  | same => exact .same _
  | failed he he' => exact .failed he he'

end Script
end Database
end Friendship
