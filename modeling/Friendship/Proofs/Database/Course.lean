import Friendship.Database.Repository

/-!
# The course of a transaction

Whatever a server answers, a dialogue takes one of its courses: `course_run`. Changing a pair has
nine of them, which `transaction_of_course` lists: one succeeds, and the others tell where it
failed.
-/
namespace Friendship.Database

namespace Dialogue

variable {α β σ : Type}

/-- A dialogue may come to a result by way of some exchanges. -/
def Course : Dialogue α → List Exchange → α → Prop
  | done a, held, b => held = [] ∧ b = a
  | ask q next, held, b => ∃ answer rest, held = ⟨q, answer⟩ :: rest ∧ (next answer).Course rest b

/-- Every server leads a dialogue along one of its courses. -/
theorem course_run (server : Server σ) (d : Dialogue α) (s : σ) :
    d.Course (d.run server s).exchanges (d.run server s).result := by
  induction d generalizing s with
  | done a => exact ⟨rfl, rfl⟩
  | ask q next ih => exact ⟨_, _, rfl, ih _ _⟩

theorem course_bind {d : Dialogue α} {f : α → Dialogue β} {held : List Exchange} {b : β} :
    (d >>= f).Course held b ↔
      ∃ a first rest, d.Course first a ∧ (f a).Course rest b ∧ held = first ++ rest := by
  induction d generalizing held with
  | done a =>
    constructor
    · intro h
      exact ⟨a, [], held, ⟨rfl, rfl⟩, h, rfl⟩
    · rintro ⟨_, _, rest, ⟨rfl, rfl⟩, h, rfl⟩
      exact h
  | ask q next ih =>
    constructor
    · rintro ⟨answer, tail, rfl, h⟩
      obtain ⟨a, first, rest, hfirst, hrest, rfl⟩ := (ih answer).1 h
      exact ⟨a, ⟨q, answer⟩ :: first, rest, ⟨answer, first, rfl, hfirst⟩, hrest, rfl⟩
    · rintro ⟨a, _, rest, ⟨answer, first, rfl, hfirst⟩, hrest, rfl⟩
      exact ⟨answer, first ++ rest, rfl, (ih answer).2 ⟨a, first, rest, hfirst, hrest, rfl⟩⟩

end Dialogue

namespace Request

variable {α β : Type}

/-- A request goes on after a success and stops at the first failure. -/
theorem course_bind {r : Request α} {f : α → Request β} {held : List Exchange}
    {b : Except RelationError β} :
    (r >>= f).run.Course held b ↔
      (∃ e, r.run.Course held (.error e) ∧ b = .error e) ∨
      ∃ a first rest, r.run.Course first (.ok a) ∧ (f a).run.Course rest b ∧
        held = first ++ rest := by
  have hbind : (r >>= f).run = r.run >>= ExceptT.bindCont f := rfl
  rw [hbind, Dialogue.course_bind]
  constructor
  · rintro ⟨a, first, rest, hfirst, hrest, rfl⟩
    cases a with
    | error e =>
      obtain ⟨rfl, rfl⟩ := hrest
      exact Or.inl ⟨e, by simpa using hfirst, rfl⟩
    | ok a => exact Or.inr ⟨a, first, rest, hfirst, hrest, rfl⟩
  · rintro (⟨e, h, rfl⟩ | ⟨a, first, rest, hfirst, hrest, rfl⟩)
    · exact ⟨.error e, held, [], h, ⟨rfl, rfl⟩, (List.append_nil _).symm⟩
    · exact ⟨.ok a, first, rest, hfirst, hrest, rfl⟩

theorem course_request {step : Step} {q : Statement} {held : List Exchange}
    {b : Except RelationError q.Answer} :
    (request step q).run.Course held b ↔
      ∃ answer, held = [⟨q, answer⟩] ∧ b = answer.mapError fun e => .internal (.query step e) := by
  constructor
  · rintro ⟨answer, _, rfl, rfl, rfl⟩
    exact ⟨answer, rfl, rfl⟩
  · rintro ⟨answer, rfl, rfl⟩
    exact ⟨answer, [], rfl, rfl, rfl⟩

theorem course_ofExcept {r : Except RelationError α} {held : List Exchange}
    {b : Except RelationError α} :
    (liftM r : Request α).run.Course held b ↔ held = [] ∧ b = r := by
  cases r <;> exact Iff.rfl

theorem course_pure {a : α} {held : List Exchange} {b : Except RelationError α} :
    (pure a : Request α).run.Course held b ↔ held = [] ∧ b = .ok a := Iff.rfl

/-- A statement whose answer is only read comes to what is read, or to its failure. -/
theorem course_reading {step : Step} {q : Statement} {f : q.Answer → Request α}
    {read : q.Answer → Except RelationError α}
    (hread : ∀ answer, (f answer).run = .done (read answer)) {held : List Exchange}
    {b : Except RelationError α} (h : (request step q >>= f).run.Course held b) :
    (∃ e, held = [⟨q, .error e⟩] ∧ b = .error (.internal (.query step e))) ∨
      ∃ answer, held = [⟨q, .ok answer⟩] ∧ b = read answer := by
  rcases course_bind.1 h with ⟨e, hfirst, rfl⟩ | ⟨answer, first, rest, hfirst, hrest, rfl⟩
  · obtain ⟨reply, rfl, hb⟩ := course_request.1 hfirst
    cases reply with
    | ok answer => cases hb
    | error e => cases hb; exact Or.inl ⟨e, rfl, rfl⟩
  · obtain ⟨reply, rfl, hb⟩ := course_request.1 hfirst
    rw [hread] at hrest
    obtain ⟨rfl, rfl⟩ := hrest
    cases reply with
    | ok answer => cases hb; exact Or.inr ⟨answer, rfl, rfl⟩
    | error e => cases hb

end Request

/-- A write that the server made. -/
def made : Write → Exchange
  | .put row status => ⟨.put row status, .ok ()⟩
  | .delete row => ⟨.delete row, .ok ()⟩

/-- A write that failed. -/
def notMade (w : Write) (e : QueryError) : Exchange := ⟨.ofWrite w, .error e⟩

/-- What the failure of a write means. -/
def writeFault (w : Write) (e : QueryError) : RelationError :=
  match w with
  | .put row _ => putError row e
  | .delete _ => .internal (.query .deleteRow e)

/-- The accounts that a plan relates were found not to be deleted; a plan that puts nothing needs
no question. -/
def Checked (p : DirectedPair) (plan : List Write) (held : List Exchange) : Prop :=
  if plan.any Write.isPut then
    ∃ ids, held = [⟨.retired p, .ok ids⟩] ∧ retiredEnd? ids plan = none
  else held = []

@[simp] theorem statement_made (w : Write) : (made w).statement = .ofWrite w := by
  cases w <;> rfl

@[simp] theorem succeeded_made (w : Write) : (made w).succeeded = true := by
  cases w <;> rfl

@[simp] theorem statement_notMade (w : Write) (e : QueryError) :
    (notMade w e).statement = .ofWrite w := rfl

section Parts

variable {p : DirectedPair} {plan : List Write} {held : List Exchange}

theorem course_lockPair {b : Except RelationError Snapshot} (h : (lockPair p).run.Course held b) :
    (∃ e, held = [⟨.lockPair p, .error e⟩] ∧ b = .error (.internal (.query .lockPair e))) ∨
    ∃ rows, held = [⟨.lockPair p, .ok rows⟩] ∧ b = snapshotOf p rows :=
  Request.course_reading (fun rows => by cases snapshotOf p rows <;> rfl) h

theorem course_checkRetired {b : Except RelationError Unit}
    (h : (checkRetired p plan).run.Course held b) :
    (Checked p plan held ∧ b = .ok ()) ∨
    plan.any Write.isPut = true ∧
      ((∃ e, held = [⟨.retired p, .error e⟩] ∧ b = .error (.internal (.query .checkRetired e))) ∨
      ∃ ids id, held = [⟨.retired p, .ok ids⟩] ∧ retiredEnd? ids plan = some id ∧
        b = .error (.userNotFound id)) := by
  unfold checkRetired at h
  by_cases hput : plan.any Write.isPut = true
  · simp only [hput, if_true] at h
    rcases Request.course_bind.1 h with ⟨e, hfirst, rfl⟩ | ⟨ids, first, rest, hfirst, hrest, rfl⟩
    · obtain ⟨answer, rfl, hb⟩ := Request.course_request.1 hfirst
      cases answer with
      | ok ids => cases hb
      | error e => cases hb; exact Or.inr ⟨hput, Or.inl ⟨e, rfl, rfl⟩⟩
    · obtain ⟨answer, rfl, hb⟩ := Request.course_request.1 hfirst
      cases answer with
      | error e => cases hb
      | ok ids =>
        cases hb
        cases hid : retiredEnd? ids plan with
        | some id =>
          simp only [hid] at hrest
          obtain ⟨rfl, rfl⟩ := hrest
          exact Or.inr ⟨hput, Or.inr ⟨ids, id, rfl, hid, rfl⟩⟩
        | none =>
          simp only [hid] at hrest
          obtain ⟨rfl, rfl⟩ := Request.course_pure.1 hrest
          refine Or.inl ⟨?_, rfl⟩
          simp only [Checked, hput, if_true]
          exact ⟨ids, rfl, hid⟩
  · simp only [hput, Bool.false_eq_true, if_false] at h
    obtain ⟨rfl, rfl⟩ := Request.course_pure.1 h
    exact Or.inl ⟨by simp [Checked, hput], rfl⟩

theorem course_write {w : Write} {b : Except RelationError Unit}
    (h : (write w).run.Course held b) :
    (held = [made w] ∧ b = .ok ()) ∨
    ∃ e, held = [notMade w e] ∧ b = .error (writeFault w e) := by
  cases w with
  | put row status =>
    obtain ⟨answer, _, rfl, rfl, rfl⟩ := h
    cases answer with
    | ok => exact Or.inl ⟨rfl, rfl⟩
    | error e => exact Or.inr ⟨e, rfl, rfl⟩
  | delete row =>
    obtain ⟨answer, rfl, rfl⟩ := Request.course_request.1 h
    cases answer with
    | ok => exact Or.inl ⟨rfl, rfl⟩
    | error e => exact Or.inr ⟨e, rfl, rfl⟩

/-- Either all writes of a plan are made, or those before the first that fails. -/
theorem course_writeAll {b : Except RelationError Unit} (h : (writeAll plan).run.Course held b) :
    (held = plan.map made ∧ b = .ok ()) ∨
    ∃ before w rest e, plan = before ++ w :: rest ∧ held = before.map made ++ [notMade w e] ∧
      b = .error (writeFault w e) := by
  induction plan generalizing held with
  | nil =>
    obtain ⟨rfl, rfl⟩ := Request.course_pure.1 h
    exact Or.inl ⟨rfl, rfl⟩
  | cons w plan ih =>
    rcases Request.course_bind.1 h with ⟨e, hfirst, rfl⟩ | ⟨_, first, others, hfirst, hrest, rfl⟩
    · rcases course_write hfirst with ⟨rfl, hb⟩ | ⟨e', rfl, hb⟩
      · cases hb
      · cases hb
        exact Or.inr ⟨[], w, plan, e', rfl, rfl, rfl⟩
    · rcases course_write hfirst with ⟨rfl, hb⟩ | ⟨e', rfl, hb⟩
      · rcases ih hrest with ⟨rfl, rfl⟩ | ⟨before, v, rest, e, rfl, rfl, rfl⟩
        · exact Or.inl ⟨rfl, rfl⟩
        · exact Or.inr ⟨w :: before, v, rest, e, rfl, rfl, rfl⟩
      · cases hb

end Parts

def begun : Exchange := ⟨.start, .ok ()⟩

def locked (p : DirectedPair) (rows : List (DirectedPair × String)) : Exchange :=
  ⟨.lockPair p, .ok rows⟩

def rolledBack (answer : Except QueryError Unit) : List Exchange := [⟨.rollback, answer⟩]

/-- The courses of a planner's answer: what is sent for it, and what comes of it. -/
inductive CarriedOut (p : DirectedPair) :
    Except RelationError (List Write) → List Exchange → Except RelationError Nat → Prop
  | refused (e : RelationError) : CarriedOut p (.error e) [] (.error e)
  | notChecked {plan : List Write} (hput : plan.any Write.isPut = true) (e : QueryError) :
    CarriedOut p (.ok plan) [⟨.retired p, .error e⟩] (.error (.internal (.query .checkRetired e)))
  | retired {plan : List Write} (hput : plan.any Write.isPut = true) {ids : List AccountId}
    {id : AccountId} (hid : retiredEnd? ids plan = some id) :
    CarriedOut p (.ok plan) [⟨.retired p, .ok ids⟩] (.error (.userNotFound id))
  | notWritten {before rest : List Write} {w : Write} {check : List Exchange}
    (hcheck : Checked p (before ++ w :: rest) check) (e : QueryError) :
    CarriedOut p (.ok (before ++ w :: rest)) (check ++ before.map made ++ [notMade w e])
      (.error (writeFault w e))
  | notCommitted {plan : List Write} {check : List Exchange} (hcheck : Checked p plan check)
    (e : QueryError) :
    CarriedOut p (.ok plan) (check ++ plan.map made ++ [⟨.commit, .error e⟩])
      (.error (.internal (.query .commit e)))
  | committed {plan : List Write} {check : List Exchange} (hcheck : Checked p plan check) :
    CarriedOut p (.ok plan) (check ++ plan.map made ++ [⟨.commit, .ok ()⟩]) (.ok plan.length)

theorem carriedOut_of_course {p : DirectedPair} {answer : Except RelationError (List Write)}
    {held : List Exchange} {b : Except RelationError Nat}
    (h : (carryOut p answer).run.Course held b) : CarriedOut p answer held b := by
  rcases Request.course_bind.1 h with ⟨e, hanswer, rfl⟩ | ⟨plan, _, rest₁, hanswer, h₁, rfl⟩
  · obtain ⟨rfl, rfl⟩ := Request.course_ofExcept.1 hanswer
    exact .refused e
  obtain ⟨rfl, rfl⟩ := Request.course_ofExcept.1 hanswer
  rcases Request.course_bind.1 h₁ with ⟨e, hcheck, rfl⟩ | ⟨_, check, rest₂, hcheck, h₂, rfl⟩
  · rcases course_checkRetired hcheck with ⟨-, hb⟩ | ⟨hput, ⟨e', rfl, hb⟩ | ⟨_, _, rfl, hid, hb⟩⟩
    · cases hb
    · cases hb; exact .notChecked hput e'
    · cases hb; exact .retired hput hid
  replace hcheck : Checked p plan check := by
    rcases course_checkRetired hcheck with ⟨hcheck, -⟩ | ⟨-, ⟨_, -, hb⟩ | ⟨_, _, -, -, hb⟩⟩
    · exact hcheck
    · cases hb
    · cases hb
  rcases Request.course_bind.1 h₂ with ⟨e, hwrites, rfl⟩ | ⟨_, writes, rest₃, hwrites, h₃, rfl⟩
  · rcases course_writeAll hwrites with ⟨-, hb⟩ | ⟨before, w, rest, e', rfl, rfl, hb⟩
    · cases hb
    · cases hb
      rw [List.nil_append, ← List.append_assoc]
      exact .notWritten hcheck e'
  obtain rfl : writes = plan.map made := by
    rcases course_writeAll hwrites with ⟨rfl, -⟩ | ⟨_, _, _, _, -, -, hb⟩
    · rfl
    · cases hb
  rw [List.nil_append, ← List.append_assoc]
  rcases Request.course_bind.1 h₃ with ⟨e, hlast, rfl⟩ | ⟨_, last, rest₄, hlast, h₄, rfl⟩
  · obtain ⟨reply, rfl, hb⟩ := Request.course_request.1 hlast
    cases reply with
    | ok => cases hb
    | error e => cases hb; exact .notCommitted hcheck e
  · obtain ⟨reply, rfl, hb⟩ := Request.course_request.1 hlast
    obtain ⟨rfl, rfl⟩ := Request.course_pure.1 h₄
    cases reply with
    | ok => exact .committed hcheck
    | error e => cases hb

/-- The courses of changing a pair: what is sent until the end is settled, what is sent
to close, and what comes of it. -/
inductive Transaction (p : DirectedPair) (planner : Planner) :
    List Exchange → List Exchange → Attempt → Prop
  | notBegun (e : QueryError) :
    Transaction p planner [⟨.start, .error e⟩] []
      ⟨none, .error (.internal (.query .start e))⟩
  | notLocked (e : QueryError) (closing : Except QueryError Unit) :
    Transaction p planner [begun, ⟨.lockPair p, .error e⟩] (rolledBack closing)
      ⟨none, .error (.internal (.query .lockPair e))⟩
  | unreadable {rows : List (DirectedPair × String)} {e : RelationError}
    (hrows : snapshotOf p rows = .error e) (closing : Except QueryError Unit) :
    Transaction p planner [begun, locked p rows] (rolledBack closing) ⟨none, .error e⟩
  | failed {rows : List (DirectedPair × String)} {seen : Snapshot} {held : List Exchange}
    {e : RelationError} (hrows : snapshotOf p rows = .ok seen)
    (hheld : CarriedOut p (planner seen) held (.error e)) (closing : Except QueryError Unit) :
    Transaction p planner (begun :: locked p rows :: held) (rolledBack closing)
      ⟨some seen, .error e⟩
  | succeeded {rows : List (DirectedPair × String)} {seen : Snapshot} {held : List Exchange}
    {n : Nat} (hrows : snapshotOf p rows = .ok seen)
    (hheld : CarriedOut p (planner seen) held (.ok n)) :
    Transaction p planner (begun :: locked p rows :: held) [] ⟨some seen, .ok n⟩

theorem transaction_of_course {p : DirectedPair} {planner : Planner} {held : List Exchange}
    {attempt : Attempt} (h : (mutatePair p planner).Course held attempt) :
    ∃ sent closing, held = sent ++ closing ∧ Transaction p planner sent closing attempt := by
  unfold mutatePair at h
  obtain ⟨opened, first, held, h₁, h, rfl⟩ := Dialogue.course_bind.1 h
  obtain ⟨answer, rfl, rfl⟩ := Request.course_request.1 h₁
  cases answer with
  | error e =>
    obtain ⟨rfl, rfl⟩ := h
    exact ⟨_, _, rfl, .notBegun e⟩
  | ok =>
    obtain ⟨shown, second, held, h₂, h, rfl⟩ := Dialogue.course_bind.1 h
    rcases course_lockPair h₂ with ⟨e, rfl, rfl⟩ | ⟨rows, rfl, rfl⟩
    · obtain ⟨closing, _, rfl, rfl, rfl⟩ := h
      exact ⟨[begun, ⟨.lockPair p, .error e⟩], rolledBack closing, rfl, .notLocked e closing⟩
    · cases hrows : snapshotOf p rows with
      | error e =>
        simp only [hrows] at h
        obtain ⟨closing, _, rfl, rfl, rfl⟩ := h
        exact ⟨[begun, locked p rows], rolledBack closing, rfl, .unreadable hrows closing⟩
      | ok seen =>
        simp only [hrows] at h
        obtain ⟨done, third, held, h₃, h, rfl⟩ := Dialogue.course_bind.1 h
        have hheld := carriedOut_of_course h₃
        cases done with
        | error e =>
          obtain ⟨closing, _, rfl, rfl, rfl⟩ := h
          exact ⟨begun :: locked p rows :: third, rolledBack closing, rfl,
            .failed hrows hheld closing⟩
        | ok n =>
          obtain ⟨rfl, rfl⟩ := h
          exact ⟨begun :: locked p rows :: third, [], rfl,
            .succeeded hrows hheld⟩

end Friendship.Database
