import Friendship.Store.Basic

/-!
# What a plan does to a store

The row of a pair is left by the last write of a plan that names it: `get?_writeAll`. The two
rows of a pair after a plan are told by `Snapshot.after`, without the store that they stand in.
Changing a pair comes to one of three ends, which `mutatePair_cases` lists.
-/
namespace Friendship

namespace Write

/-- What stands in the row of a write once it was made. -/
def stored (now : Instant) : Write → Option Row
  | put _ status => some ⟨status, now⟩
  | delete _ => none

@[simp] theorem map_status_stored (now : Instant) (w : Write) :
    (w.stored now).map Row.status = w.outcome := by
  cases w <;> rfl

/-- The last write of a plan that names a row. -/
def last? (plan : List Write) (p : DirectedPair) : Option Write :=
  plan.reverse.find? fun w => w.row = p

@[simp] theorem last?_nil (p : DirectedPair) : last? [] p = none := rfl

theorem last?_cons (w : Write) (plan : List Write) (p : DirectedPair) :
    last? (w :: plan) p = (last? plan p).or (if w.row = p then some w else none) := by
  by_cases h : w.row = p <;> simp [last?, h]

theorem last?_eq_none_iff {plan : List Write} {p : DirectedPair} :
    last? plan p = none ↔ ∀ w ∈ plan, w.row ≠ p := by
  simp [last?]

theorem mem_of_last? {plan : List Write} {p : DirectedPair} {w : Write}
    (h : last? plan p = some w) : w ∈ plan ∧ w.row = p :=
  ⟨List.mem_reverse.1 (List.mem_of_find?_eq_some h), by simpa using List.find?_some h⟩

/-- The accounts that a plan relates are the ends of the rows that it puts. -/
theorem mem_ends_iff {w : Write} {id : AccountId} :
    id ∈ w.ends ↔ w.isPut = true ∧ (id = w.row.first ∨ id = w.row.second) := by
  cases w <;> simp [ends, isPut, row]

/-- A plan that puts nothing relates nobody. -/
theorem flatMap_ends_of_no_put {plan : List Write} (h : plan.any isPut = false) :
    plan.flatMap ends = [] := by
  refine List.flatMap_eq_nil_iff.2 fun w hw => List.eq_nil_iff_forall_not_mem.2 fun id hid => ?_
  exact List.any_eq_false.1 h w hw (mem_ends_iff.1 hid).1

end Write

namespace Snapshot

/-- The two rows of a pair after the writes of a plan. -/
def after (p : DirectedPair) (plan : List Write) (seen : Snapshot) : Snapshot :=
  ⟨(Write.last? plan p).elim seen.forward Write.outcome,
    (Write.last? plan p.reversed).elim seen.backward Write.outcome⟩

end Snapshot

namespace Store

variable {s : Store} {now : Instant} {plan : List Write} {p : DirectedPair}

/-- The status of the row of a pair. -/
def status? (s : Store) (p : DirectedPair) : Option Status := (s.rows.get? p).map Row.status

theorem snapshot_eq (s : Store) (p : DirectedPair) :
    s.snapshot p = ⟨s.status? p, s.status? p.reversed⟩ := rfl

@[simp] theorem writeAll_nil : s.writeAll now [] = s := rfl

theorem writeAll_cons (w : Write) :
    s.writeAll now (w :: plan) = (s.writeAll now [w]).writeAll now plan := rfl

theorem get?_writeRow (rows : Table DirectedPair Row) (w : Write) :
    (writeRow now rows w).get? p = if w.row = p then w.stored now else rows.get? p := by
  by_cases h : w.row = p
  · subst h
    cases w <;> simp [writeRow, Write.row, Write.stored]
  · have hp : p ≠ w.row := fun e => h e.symm
    cases w with
    | put q status =>
      simp only [h, if_false]
      exact Table.get?_insert_of_ne rows _ hp
    | delete q =>
      simp only [h, if_false]
      exact Table.get?_erase_of_ne rows hp

/-- The last write of a row tells what stands in it; a row that no write names stays as it was. -/
theorem get?_writeAll (s : Store) (now : Instant) (plan : List Write) (p : DirectedPair) :
    (s.writeAll now plan).rows.get? p =
      (Write.last? plan p).elim (s.rows.get? p) (Write.stored now) := by
  induction plan generalizing s with
  | nil => rfl
  | cons w plan ih =>
    have hw : (s.writeAll now [w]).rows.get? p =
        if w.row = p then w.stored now else s.rows.get? p := get?_writeRow s.rows w
    rw [writeAll_cons, ih, hw, Write.last?_cons]
    cases Write.last? plan p with
    | some v => rfl
    | none => by_cases h : w.row = p <;> simp [h]

theorem status?_writeAll (s : Store) (now : Instant) (plan : List Write) (p : DirectedPair) :
    (s.writeAll now plan).status? p = (Write.last? plan p).elim (s.status? p) Write.outcome := by
  unfold status?
  rw [get?_writeAll]
  cases Write.last? plan p with
  | some w => exact Write.map_status_stored now w
  | none => rfl

theorem snapshot_writeAll (s : Store) (now : Instant) (plan : List Write) (p : DirectedPair) :
    (s.writeAll now plan).snapshot p = (s.snapshot p).after p plan := by
  simp only [snapshot_eq, status?_writeAll, Snapshot.after]

theorem get?_writeAll_of_ne (h : ∀ w ∈ plan, w.row ≠ p) :
    (s.writeAll now plan).rows.get? p = s.rows.get? p := by
  rw [get?_writeAll, Write.last?_eq_none_iff.2 h]
  rfl

/-- An account is live if it is there and not deleted. -/
theorem isLive_eq_true_iff {id : AccountId} :
    s.isLive id = true ↔
      (s.accounts.get? id).isSome = true ∧ (s.accounts.get? id).any Account.deleted = false := by
  unfold isLive
  cases s.accounts.get? id <;> simp

theorem missingEnd?_eq_none_iff :
    s.missingEnd? plan = none ↔ ∀ w ∈ plan, ∀ id ∈ w.ends, s.isLive id = true := by
  simp only [missingEnd?, List.find?_eq_none, List.mem_flatMap, Bool.not_eq_true',
    Bool.not_eq_false]
  constructor
  · intro h w hw id hid
    exact h id ⟨w, hw, hid⟩
  · rintro h id ⟨w, hw, hid⟩
    exact h w hw id hid

/-- A pair of a store in use is changed as a whole or not at all: the planner refuses, an account
that its plan relates is not live, or the writes are made. -/
theorem mutatePair_cases (hs : s.poisoned = false) (now : Instant) (p : DirectedPair)
    (planner : Planner) :
    (∃ e, planner (s.snapshot p) = .error e ∧
      s.mutatePair now p planner = (⟨some (s.snapshot p), .error e⟩, s)) ∨
    (∃ plan id, planner (s.snapshot p) = .ok plan ∧ s.missingEnd? plan = some id ∧
      s.mutatePair now p planner = (⟨some (s.snapshot p), .error (.userNotFound id)⟩, s)) ∨
    (∃ plan, planner (s.snapshot p) = .ok plan ∧ s.missingEnd? plan = none ∧
      s.mutatePair now p planner =
        (⟨some (s.snapshot p), .ok plan.length⟩, s.writeAll now plan)) := by
  simp only [mutatePair, hs, Bool.false_eq_true, if_false]
  cases hplan : planner (s.snapshot p) with
  | error e => exact Or.inl ⟨e, rfl, rfl⟩
  | ok plan =>
    simp only [apply]
    cases hend : s.missingEnd? plan with
    | some id => exact Or.inr (Or.inl ⟨plan, id, rfl, hend, rfl⟩)
    | none => exact Or.inr (Or.inr ⟨plan, rfl, hend, rfl⟩)

/-- What comes of a plan: its number of writes, unless an account that it relates was found
missing. -/
def toldMissing (missing : Option AccountId) (plan : List Write) : Except RelationError Nat :=
  match missing with
  | some id => .error (.userNotFound id)
  | none => .ok plan.length

/-- Changing a pair comes to what is planned, unless an account is not live. -/
theorem result_mutatePair (hs : s.poisoned = false) (now : Instant) (p : DirectedPair)
    (planner : Planner) :
    (s.mutatePair now p planner).1.result =
      (planner (s.snapshot p)).bind fun plan => toldMissing (s.missingEnd? plan) plan := by
  rcases mutatePair_cases hs now p planner with
    ⟨e, hplan, heq⟩ | ⟨plan, id, hplan, hend, heq⟩ | ⟨plan, hplan, hend, heq⟩
  · rw [heq, hplan]
    rfl
  · rw [heq, hplan]
    simp only [Except.bind, hend, toldMissing]
  · rw [heq, hplan]
    simp only [Except.bind, hend, toldMissing]

end Store

namespace Sample

def alice : AccountId := ⟨List.replicate 16 1, rfl⟩

def bob : AccountId := ⟨List.replicate 16 2, rfl⟩

/-- Alice and Bob, who have nothing to do with each other. -/
def members : Store where
  accounts := (Table.empty.insert alice ⟨"alice", 1, false⟩).insert bob ⟨"bob", 2, false⟩

end Sample

/-- A row that a plan puts and then deletes is gone. -/
example : (Store.empty.writeAll (.ofSecond 7) [.put ⟨Sample.alice, Sample.bob⟩ .pending,
    .delete ⟨Sample.alice, Sample.bob⟩]).rows.get? ⟨Sample.alice, Sample.bob⟩ = none := by
  decide

end Friendship
