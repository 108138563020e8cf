import Friendship.Database.Script
import Friendship.Proofs.Database.Course
import Friendship.Proofs.Store.Plans

/-!
# The protocol of a transaction

What a server is told when a pair is changed follows one agenda, cut short at the first failure
and closed by a rollback unless it was never begun or was committed. `mutatePair_orderly` says so
of every server and every planner; the laws are those of `Orderly`.
-/
namespace Friendship

namespace Database

/-- The write that a statement carries out, if it is one. -/
def Statement.write? : Statement → Option Write
  | .put row status => some (.put row status)
  | .delete row => some (.delete row)
  | .start | .commit | .rollback | .lockPair _ | .retired _ | .list _ | .count _ | .upkeep _ =>
    none

@[simp] theorem Statement.write?_ofWrite (w : Write) : (Statement.ofWrite w).write? = some w := by
  cases w <;> rfl

/-- The statements for a planner's answer, in order: the accounts are checked if a row is to be
put, the writes follow, and the commit is last. -/
def tasks (p : DirectedPair) : Option (List Write) → List Statement
  | none => []
  | some plan =>
    (if plan.any Write.isPut then [.retired p] else []) ++ plan.map .ofWrite ++ [.commit]

/-- All statements for changing a pair, in order. -/
def agenda (p : DirectedPair) (plan? : Option (List Write)) : List Statement :=
  [.start, .lockPair p] ++ tasks p plan?

/-- The writes among some exchanges. -/
def writesIn (held : List Exchange) : List Write :=
  (held.map Exchange.statement).filterMap Statement.write?

/-- The plan that a planner answered with, if it was asked and did not refuse. -/
def planOf? (planner : Planner) (attempt : Attempt) : Option (List Write) :=
  attempt.seen.bind fun seen => (planner seen).toOption

theorem toOption_eq_some_iff {r : Except RelationError (List Write)} {plan : List Write} :
    r.toOption = some plan ↔ r = .ok plan := by
  cases r <;> simp [Except.toOption]

theorem filterMap_write?_tasks (p : DirectedPair) (plan? : Option (List Write)) :
    (tasks p plan?).filterMap Statement.write? = plan?.getD [] := by
  cases plan? with
  | none => rfl
  | some plan =>
    have hwrites : (plan.map Statement.ofWrite).filterMap Statement.write? = plan := by
      rw [List.filterMap_map]
      have hsome : Statement.write? ∘ Statement.ofWrite = some := funext Statement.write?_ofWrite
      rw [hsome, List.filterMap_some]
    have hcheck : (if plan.any Write.isPut then [Statement.retired p] else []).filterMap
        Statement.write? = [] := by split <;> rfl
    simp only [tasks, List.filterMap_append, hwrites, hcheck]
    simp [Statement.write?]

section Check

variable {p : DirectedPair} {plan : List Write} {check : List Exchange}

theorem Checked.map_statement (h : Checked p plan check) :
    check.map Exchange.statement = if plan.any Write.isPut then [.retired p] else [] := by
  unfold Checked at h
  split at h
  · rename_i hput
    obtain ⟨ids, rfl, -⟩ := h
    rw [if_pos hput]
    rfl
  · rename_i hput
    rw [h, if_neg hput]
    rfl

theorem Checked.mem {e : Exchange} (h : Checked p plan check) (he : e ∈ check) :
    ∃ ids, e = ⟨.retired p, .ok ids⟩ ∧ retiredEnd? ids plan = none := by
  unfold Checked at h
  split at h
  · obtain ⟨ids, rfl, hids⟩ := h
    exact ⟨ids, List.mem_singleton.1 he, hids⟩
  · rw [h] at he
    cases he

theorem mem_map_made {e : Exchange} (he : e ∈ plan.map made) :
    e.succeeded = true ∧ ∃ w, e.statement = .ofWrite w := by
  obtain ⟨w, -, rfl⟩ := List.mem_map.1 he
  exact ⟨succeeded_made w, w, statement_made w⟩

theorem Statement.ofWrite_ne_retired (w : Write) (p : DirectedPair) : ofWrite w ≠ retired p := by
  cases w <;> simp [ofWrite]

theorem Statement.ofWrite_ne_commit (w : Write) : ofWrite w ≠ commit := by
  cases w <;> simp [ofWrite]

/-- Among a check and the writes of its plan no account of the plan is told to be deleted. -/
theorem Checked.retiredEnd?_eq_none {before : List Write} {last : Exchange} {ids : List AccountId}
    (h : Checked p plan check) (hlast : last.statement ≠ .retired p)
    (hids : (⟨.retired p, .ok ids⟩ : Exchange) ∈ check ++ before.map made ++ [last]) :
    retiredEnd? ids plan = none := by
  rcases List.mem_append.1 hids with hids | hids
  · rcases List.mem_append.1 hids with hids | hids
    · obtain ⟨ids', he, hids'⟩ := h.mem hids
      cases he
      exact hids'
    · obtain ⟨-, w, hw⟩ := mem_map_made hids
      exact absurd hw.symm (Statement.ofWrite_ne_retired w p)
  · exact absurd (congrArg Exchange.statement (List.mem_singleton.1 hids)).symm hlast

theorem Checked.succeeded {before : List Write} {e : Exchange} (h : Checked p plan check)
    (he : e ∈ check ++ before.map made) : e.succeeded = true ∧ e.statement ≠ .commit := by
  rcases List.mem_append.1 he with he | he
  · obtain ⟨ids, rfl, -⟩ := h.mem he
    exact ⟨rfl, by simp⟩
  · obtain ⟨hok, w, hw⟩ := mem_map_made he
    exact ⟨hok, hw ▸ Statement.ofWrite_ne_commit w⟩

theorem Checked.succeeded_of_ne_commit {e : Exchange} {reply : Except QueryError Unit}
    (h : Checked p plan check) (he : e ∈ check ++ plan.map made ++ [⟨.commit, reply⟩])
    (hne : e.statement ≠ .commit) : e.succeeded = true := by
  rcases List.mem_append.1 he with he | he
  · exact (h.succeeded he).1
  · exact absurd (congrArg Exchange.statement (List.mem_singleton.1 he)) hne

end Check

namespace CarriedOut

variable {p : DirectedPair} {answer : Except RelationError (List Write)} {held : List Exchange}
  {b : Except RelationError Nat}

theorem inOrder (h : CarriedOut p answer held b) :
    held.map Exchange.statement <+: tasks p answer.toOption := by
  cases h with
  | refused e => exact List.nil_prefix
  | notChecked hput e => exact ⟨_, by simp only [tasks, Except.toOption, hput, if_true]; rfl⟩
  | retired hput hid => exact ⟨_, by simp only [tasks, Except.toOption, hput, if_true]; rfl⟩
  | @notWritten before rest w check hcheck e =>
    refine ⟨rest.map .ofWrite ++ [.commit], ?_⟩
    simp [tasks, Except.toOption, hcheck.map_statement, Function.comp_def]
  | notCommitted hcheck e =>
    refine ⟨[], ?_⟩
    simp [tasks, Except.toOption, hcheck.map_statement, Function.comp_def]
  | committed hcheck =>
    refine ⟨[], ?_⟩
    simp [tasks, Except.toOption, hcheck.map_statement, Function.comp_def]

/-- Nothing is sent after a failure. -/
theorem untilFailure (h : CarriedOut p answer held b) :
    ∀ e ∈ held.dropLast, e.succeeded = true := by
  intro e he
  cases h with
  | refused e => cases he
  | notChecked hput e => cases he
  | retired hput hid => cases he
  | notWritten hcheck e =>
    rw [List.dropLast_concat] at he
    exact (hcheck.succeeded he).1
  | notCommitted hcheck e =>
    rw [List.dropLast_concat] at he
    exact (hcheck.succeeded he).1
  | committed hcheck =>
    rw [List.dropLast_concat] at he
    exact (hcheck.succeeded he).1

/-- Of an account that is told to be deleted and that the plan relates nothing is written. -/
theorem refusal {plan : List Write} {ids : List AccountId} {id : AccountId}
    (h : CarriedOut p (.ok plan) held b) (hids : (⟨.retired p, .ok ids⟩ : Exchange) ∈ held)
    (hid : retiredEnd? ids plan = some id) :
    writesIn held = [] ∧ b = .error (.userNotFound id) := by
  cases h with
  | notChecked hput e => simp at hids
  | retired hput hid' =>
    cases List.mem_singleton.1 hids
    rw [hid] at hid'
    cases hid'
    exact ⟨rfl, rfl⟩
  | notWritten hcheck e =>
    rw [hcheck.retiredEnd?_eq_none (Statement.ofWrite_ne_retired _ p) hids] at hid
    cases hid
  | notCommitted hcheck e =>
    rw [hcheck.retiredEnd?_eq_none (by simp) hids] at hid
    cases hid
  | committed hcheck =>
    rw [hcheck.retiredEnd?_eq_none (by simp) hids] at hid
    cases hid

/-- The commit is sent if and only if all before it went well and no account is deleted. -/
theorem commit_mem_iff (h : CarriedOut p answer held b) :
    .commit ∈ held.map Exchange.statement ↔
      (∀ e ∈ held, e.statement ≠ .commit → e.succeeded = true) ∧
      ∃ plan, answer = .ok plan ∧
        ∀ ids, (⟨.retired p, .ok ids⟩ : Exchange) ∈ held → retiredEnd? ids plan = none := by
  cases h with
  | refused e => simp
  | notChecked hput e =>
    constructor
    · intro hc
      simp at hc
    · rintro ⟨hok, -⟩
      have := hok _ (List.mem_singleton.2 rfl) (by simp)
      cases this
  | @retired plan hput ids id hid =>
    constructor
    · intro hc
      simp at hc
    · rintro ⟨-, _, hplan, hnone⟩
      cases hplan
      rw [hnone ids (List.mem_singleton.2 rfl)] at hid
      cases hid
  | @notWritten before rest w check hcheck e =>
    constructor
    · intro hc
      obtain ⟨e', he', hcommit⟩ := List.mem_map.1 hc
      rcases List.mem_append.1 he' with he' | he'
      · exact absurd hcommit (hcheck.succeeded he').2
      · rw [List.mem_singleton.1 he'] at hcommit
        exact absurd hcommit (Statement.ofWrite_ne_commit w)
    · rintro ⟨hok, -⟩
      have := hok (notMade w e) (List.mem_append_right _ (List.mem_singleton.2 rfl))
        (Statement.ofWrite_ne_commit w)
      cases this
  | @notCommitted plan check hcheck e =>
    refine ⟨fun _ => ⟨fun _ => hcheck.succeeded_of_ne_commit, plan, rfl, fun ids => ?_⟩, by simp⟩
    exact hcheck.retiredEnd?_eq_none (by simp)
  | @committed plan check hcheck =>
    refine ⟨fun _ => ⟨fun _ => hcheck.succeeded_of_ne_commit, plan, rfl, fun ids => ?_⟩, by simp⟩
    exact hcheck.retiredEnd?_eq_none (by simp)

/-- What comes of a plan is the number of its writes if and only if the commit succeeded. -/
theorem result_eq_ok_iff (h : CarriedOut p answer held b) (n : Nat) :
    b = .ok n ↔ (⟨.commit, .ok ()⟩ : Exchange) ∈ held ∧
      answer.toOption.map List.length = some n := by
  cases h with
  | refused e => simp
  | notChecked hput e => simp
  | retired hput hid => simp
  | @notWritten before rest w check hcheck e =>
    constructor
    · intro hb
      cases hb
    · rintro ⟨hc, -⟩
      rcases List.mem_append.1 hc with hc | hc
      · exact absurd rfl (hcheck.succeeded hc).2
      · exact absurd (congrArg Exchange.statement (List.mem_singleton.1 hc)).symm
          (Statement.ofWrite_ne_commit w)
  | notCommitted hcheck e =>
    constructor
    · intro hb
      cases hb
    · rintro ⟨hc, -⟩
      rcases List.mem_append.1 hc with hc | hc
      · exact absurd rfl (hcheck.succeeded hc).2
      · cases List.mem_singleton.1 hc
  | committed hcheck => simp [Except.toOption]

/-- What comes to an end well went well all the way. -/
theorem all_succeeded {n : Nat} (h : CarriedOut p answer held (.ok n)) :
    ∀ e ∈ held, e.succeeded = true := by
  cases h with
  | committed hcheck =>
    intro e he
    rcases List.mem_append.1 he with he | he
    · exact (hcheck.succeeded he).1
    · obtain rfl := List.mem_singleton.1 he
      rfl

end CarriedOut

section Reading

variable {p : DirectedPair} {rows : List (DirectedPair × String)}

/-- Locked rows can be read if and only if all their statuses are known. -/
theorem snapshotOf_eq_ok_iff :
    (∃ seen, snapshotOf p rows = .ok seen) ↔ ∀ row ∈ rows, (Status.ofText? row.2).isSome := by
  unfold snapshotOf
  generalize ({} : Snapshot) = start
  induction rows generalizing start with
  | nil => simp [pure, Except.pure]
  | cons row rows ih =>
    obtain ⟨q, text⟩ := row
    cases htext : Status.ofText? text with
    | none =>
      simp [readStatus, htext, bind, Except.bind]
    | some status =>
      simp only [List.foldlM_cons, readStatus, htext, bind, Except.bind, pure, Except.pure,
        List.forall_mem_cons, Option.isSome_some, true_and]
      exact ih _

end Reading

/-- The laws of changing a pair over a server: what is sent until the end is settled, what is
sent to close, and what comes of it. -/
structure Orderly (p : DirectedPair) (planner : Planner) (sent closing : List Exchange)
    (attempt : Attempt) : Prop where
  /-- The statements are those of the agenda, in order and without a gap, up to some point. -/
  inOrder : sent.map Exchange.statement <+: agenda p (planOf? planner attempt)
  /-- A transaction is begun, whatever comes of it. -/
  begins : .start ∈ sent.map Exchange.statement
  /-- Once it is begun the rows are asked for. -/
  locks : begun ∈ sent → .lockPair p ∈ sent.map Exchange.statement
  /-- A failure is the last that is sent. -/
  untilFailure : ∀ e ∈ sent.dropLast, e.succeeded = true
  /-- The planner is shown the locked rows, if they can be read. -/
  shown : ∀ seen, attempt.seen = some seen ↔
    ∃ rows, locked p rows ∈ sent ∧ snapshotOf p rows = .ok seen
  /-- The writes are the first of the plan; without a plan there are none. -/
  writes : writesIn sent <+: (planOf? planner attempt).getD []
  /-- Of the accounts that the plan relates, the first that the server tells to be deleted is
  reported, and nothing is written. -/
  refusal : ∀ plan ids id, planOf? planner attempt = some plan →
    (⟨.retired p, .ok ids⟩ : Exchange) ∈ sent → retiredEnd? ids plan = some id →
    writesIn sent = [] ∧ attempt.result = .error (.userNotFound id)
  /-- The commit is sent if and only if all before it succeeded, the locked rows can be read, there
  is a plan, and no account that it relates is told to be deleted. -/
  commit : .commit ∈ sent.map Exchange.statement ↔
    (∀ e ∈ sent, e.statement ≠ .commit → e.succeeded = true) ∧
    (∃ rows, locked p rows ∈ sent ∧ ∀ row ∈ rows, (Status.ofText? row.2).isSome) ∧
    ∃ plan, planOf? planner attempt = some plan ∧
      ∀ ids, (⟨.retired p, .ok ids⟩ : Exchange) ∈ sent → retiredEnd? ids plan = none
  /-- A success is a commit that succeeded, and it tells the length of the plan. -/
  success : ∀ n, attempt.result = .ok n ↔ (⟨.commit, .ok ()⟩ : Exchange) ∈ sent ∧
    (planOf? planner attempt).map List.length = some n
  /-- What was begun and failed is closed by a rollback. -/
  rolledBack : begun ∈ sent → ∀ e, attempt.result = .error e →
    closing.map Exchange.statement = [.rollback]
  /-- What succeeded or was never begun needs no closing. -/
  notRolledBack : begun ∉ sent ∨ (∃ n, attempt.result = .ok n) → closing = []

section Laws

variable {p : DirectedPair} {planner : Planner} {sent closing held : List Exchange}

theorem writesIn_prefix (plan? : Option (List Write))
    (h : sent.map Exchange.statement <+: agenda p plan?) : writesIn sent <+: plan?.getD [] := by
  have hwrites : writesIn sent <+: (agenda p plan?).filterMap Statement.write? :=
    h.filterMap Statement.write?
  have hagenda : (agenda p plan?).filterMap Statement.write? = plan?.getD [] :=
    filterMap_write?_tasks p plan?
  rwa [hagenda] at hwrites

theorem lockPair_not_mem_tasks (plan? : Option (List Write)) : .lockPair p ∉ tasks p plan? := by
  intro h
  cases plan? with
  | none => cases h
  | some plan =>
    simp only [tasks, List.mem_append, List.mem_singleton, List.mem_map] at h
    rcases h with (h | ⟨w, -, h⟩) | h
    · split at h <;> simp at h
    · cases w <;> simp [Statement.ofWrite] at h
    · simp at h

/-- What falls before there is a plan is orderly. -/
theorem orderly_of_unplanned {e : RelationError}
    (hcourse : begun ∈ sent ∧ sent.map Exchange.statement = [.start, .lockPair p] ∧
        closing.map Exchange.statement = [.rollback] ∨
      begun ∉ sent ∧ sent.map Exchange.statement = [.start] ∧ closing = [])
    (hlast : ∀ e ∈ sent.dropLast, e.succeeded = true)
    (hrows : ∀ rows seen, locked p rows ∈ sent → snapshotOf p rows ≠ .ok seen) :
    Orderly p planner sent closing ⟨none, .error e⟩ := by
  have hsent : sent.map Exchange.statement <+: [.start, .lockPair p] := by
    rcases hcourse with ⟨-, h, -⟩ | ⟨-, h, -⟩
    · exact h ▸ List.prefix_refl _
    · exact h ▸ ⟨[.lockPair p], rfl⟩
  exact {
    inOrder := hsent
    begins := by
      rcases hcourse with ⟨-, h, -⟩ | ⟨-, h, -⟩ <;> simp [h]
    locks := fun hbegun => by
      rcases hcourse with ⟨-, h, -⟩ | ⟨hnot, -, -⟩
      · simp [h]
      · exact absurd hbegun hnot
    untilFailure := hlast
    shown := fun seen => by
      constructor
      · intro h
        cases h
      · rintro ⟨rows, hmem, hseen⟩
        exact absurd hseen (hrows rows seen hmem)
    writes := writesIn_prefix none hsent
    refusal := fun _ _ _ h => by cases h
    commit := by
      constructor
      · intro hc
        have := hsent.subset hc
        simp at this
      · rintro ⟨-, -, _, h, -⟩
        cases h
    success := fun n => by simp [planOf?]
    rolledBack := fun hbegun _ _ => by
      rcases hcourse with ⟨-, -, h⟩ | ⟨hnot, -, -⟩
      · exact h
      · exact absurd hbegun hnot
    notRolledBack := fun h => by
      rcases h with h | ⟨n, h⟩
      · rcases hcourse with ⟨hbegun, -, -⟩ | ⟨-, -, hclosing⟩
        · exact absurd hbegun h
        · exact hclosing
      · cases h }

/-- What follows a planner's answer is orderly. -/
theorem orderly_of_carriedOut {rows : List (DirectedPair × String)} {seen : Snapshot}
    {b : Except RelationError Nat} (hrows : snapshotOf p rows = .ok seen)
    (hheld : CarriedOut p (planner seen) held b)
    (hfailed : ∀ e, b = .error e → closing.map Exchange.statement = [.rollback])
    (hdone : ∀ n, b = .ok n → closing = []) :
    Orderly p planner (begun :: locked p rows :: held) closing ⟨some seen, b⟩ := by
  have hplan : planOf? planner ⟨some seen, b⟩ = (planner seen).toOption := rfl
  have horder : (begun :: locked p rows :: held).map Exchange.statement <+:
      agenda p (planner seen).toOption := by
    simp only [agenda, List.map_cons, List.cons_append, List.nil_append]
    exact List.cons_prefix_cons.2 ⟨rfl, List.cons_prefix_cons.2 ⟨rfl, hheld.inOrder⟩⟩
  -- The rows are answered once: among what follows no rows are locked.
  have hlocked : ∀ rows', locked p rows' ∈ begun :: locked p rows :: held → rows' = rows := by
    intro rows' h
    rcases List.mem_cons.1 h with h | h
    · cases h
    rcases List.mem_cons.1 h with h | h
    · cases h; rfl
    · have hmem : .lockPair p ∈ held.map Exchange.statement := List.mem_map_of_mem h
      exact absurd (hheld.inOrder.subset hmem) (lockPair_not_mem_tasks _)
  have hretired : ∀ ids, (⟨.retired p, .ok ids⟩ : Exchange) ∈ begun :: locked p rows :: held ↔
      (⟨.retired p, .ok ids⟩ : Exchange) ∈ held := by
    intro ids
    simp [begun, locked]
  refine ⟨hplan ▸ horder, List.mem_cons_self, fun _ => List.mem_cons_of_mem _ List.mem_cons_self,
    ?_, ?_, hplan ▸ writesIn_prefix _ horder, ?_, ?_, ?_, ?_, ?_⟩
  · intro e he
    cases held with
    | nil =>
      obtain rfl : e = begun := by simpa using he
      rfl
    | cons first rest =>
      rcases List.mem_cons.1 he with rfl | he
      · rfl
      rcases List.mem_cons.1 he with rfl | he
      · rfl
      · exact hheld.untilFailure e he
  · intro seen'
    constructor
    · rintro ⟨⟩
      exact ⟨rows, by simp, hrows⟩
    · rintro ⟨rows', hmem, hseen⟩
      rw [hlocked rows' hmem, hrows] at hseen
      cases hseen
      rfl
  · intro plan ids id hok hids hid
    rw [hplan] at hok
    rw [toOption_eq_some_iff.1 hok] at hheld
    exact hheld.refusal ((hretired ids).1 hids) hid
  · have hcommit : .commit ∈ (begun :: locked p rows :: held).map Exchange.statement ↔
        .commit ∈ held.map Exchange.statement := by
      simp [begun, locked]
    rw [hcommit, hheld.commit_mem_iff, hplan]
    constructor
    · rintro ⟨hok, plan, hanswer, hnone⟩
      refine ⟨?_, ⟨rows, by simp, snapshotOf_eq_ok_iff.1 ⟨seen, hrows⟩⟩, plan,
        toOption_eq_some_iff.2 hanswer, fun ids h => hnone ids ((hretired ids).1 h)⟩
      intro e he hne
      rcases List.mem_cons.1 he with rfl | he
      · rfl
      rcases List.mem_cons.1 he with rfl | he
      · rfl
      · exact hok e he hne
    · rintro ⟨hok, -, plan, hanswer, hnone⟩
      refine ⟨fun e he => hok e (List.mem_cons_of_mem _ (List.mem_cons_of_mem _ he)), plan,
        toOption_eq_some_iff.1 hanswer, fun ids h => hnone ids ((hretired ids).2 h)⟩
  · intro n
    rw [hplan]
    have hcommit : (⟨.commit, .ok ()⟩ : Exchange) ∈ begun :: locked p rows :: held ↔
        (⟨.commit, .ok ()⟩ : Exchange) ∈ held := by
      simp [begun, locked]
    rw [hcommit]
    exact hheld.result_eq_ok_iff n
  · intro _ e he
    exact hfailed e he
  · rintro (h | ⟨n, h⟩)
    · exact absurd List.mem_cons_self h
    · exact hdone n h

theorem Transaction.orderly {attempt : Attempt} (h : Transaction p planner sent closing attempt) :
    Orderly p planner sent closing attempt := by
  cases h with
  | notBegun e =>
    exact orderly_of_unplanned (Or.inr ⟨by simp [begun], rfl, rfl⟩) (by simp) (by simp [locked])
  | notLocked e reply =>
    exact orderly_of_unplanned (Or.inl ⟨by simp, rfl, rfl⟩) (List.forall_mem_singleton.2 rfl)
      (by simp [locked, begun])
  | @unreadable rows e hrows reply =>
    refine orderly_of_unplanned (Or.inl ⟨by simp, rfl, rfl⟩) (List.forall_mem_singleton.2 rfl) ?_
    intro rows' seen hmem hseen
    rcases List.mem_cons.1 hmem with hmem | hmem
    · cases hmem
    · cases List.mem_singleton.1 hmem
      rw [hrows] at hseen
      cases hseen
  | failed hrows hheld reply =>
    exact orderly_of_carriedOut hrows hheld (fun _ _ => rfl) (fun n h => by cases h)
  | succeeded hrows hheld =>
    exact orderly_of_carriedOut hrows hheld (fun e h => by cases h) (fun _ _ => rfl)

/-- A transaction that fails has not been committed. -/
theorem Orderly.not_committed {attempt : Attempt} {e : RelationError}
    (h : Orderly p planner sent closing attempt) (he : attempt.result = .error e) :
    (⟨.commit, .ok ()⟩ : Exchange) ∉ sent ++ closing := by
  intro hc
  rcases List.mem_append.1 hc with hc | hc
  · obtain ⟨-, -, plan, hplan, -⟩ := h.commit.1 (List.mem_map_of_mem hc)
    have hok := (h.success plan.length).2 ⟨hc, by rw [hplan]; rfl⟩
    rw [he] at hok
    cases hok
  · have hcommit : Statement.commit ∈ closing.map Exchange.statement := List.mem_map_of_mem hc
    by_cases hbegun : begun ∈ sent
    · rw [h.rolledBack hbegun e he] at hcommit
      simp at hcommit
    · rw [h.notRolledBack (Or.inl hbegun)] at hcommit
      cases hcommit

/-- In a transaction that succeeds no statement fails. -/
theorem Transaction.all_succeeded {attempt : Attempt} {n : Nat}
    (h : Transaction p planner sent closing attempt) (hn : attempt.result = .ok n) :
    ∀ e ∈ sent ++ closing, e.succeeded = true := by
  cases h with
  | notBegun e => cases hn
  | notLocked e reply => cases hn
  | unreadable hrows reply => cases hn
  | failed hrows hheld reply => cases hn
  | succeeded hrows hheld =>
    intro e he
    rw [List.append_nil] at he
    rcases List.mem_cons.1 he with rfl | he
    · rfl
    rcases List.mem_cons.1 he with rfl | he
    · rfl
    · exact hheld.all_succeeded e he

end Laws

/-- Whatever the server answers, a pair is changed by the laws: the statements are those of the
agenda, where the rows of the pair are asked for in both directions, and all of them but a last
rollback. -/
theorem mutatePair_orderly {σ : Type} (server : Server σ) (s : σ) (p : DirectedPair)
    (planner : Planner) :
    (Statement.lockPair p).parameters =
      [p.first.text, p.second.text, p.second.text, p.first.text] ∧
    (Statement.retired p).parameters = [p.first.text, p.second.text] ∧
    ∃ sent closing, ((mutatePair p planner).run server s).exchanges = sent ++ closing ∧
      Orderly p planner sent closing ((mutatePair p planner).run server s).result := by
  refine ⟨rfl, rfl, ?_⟩
  obtain ⟨sent, closing, heq, h⟩ :=
    transaction_of_course (Dialogue.course_run server (mutatePair p planner) s)
  exact ⟨sent, closing, heq, h.orderly⟩

end Database

namespace Sample

/-- Alice and Bob become friends. -/
def friendship : List Write := [.put ⟨alice, bob⟩ .accepted, .put ⟨bob, alice⟩ .accepted]

/-- A server that takes one row and then meets a deadlock. -/
def deadlocked : Database.Script where
  failures := [("PUT", [none, some ⟨1213, some "40001", "Deadlock found"⟩])]

end Sample

namespace Database

/-- Both rows are sent, and as the second one is not taken they are rolled back. -/
theorem mutatePair_orderly_deadlocked :
    let p : DirectedPair := ⟨Sample.alice, Sample.bob⟩
    let planner : Planner := .fixed (.ok Sample.friendship)
    let held := (mutatePair p planner).run Sample.deadlocked.server []
    ∃ sent closing, held.exchanges = sent ++ closing ∧
      Orderly p planner sent closing held.result ∧
      sent.map Exchange.statement =
        [.start, .lockPair p, .retired p] ++ Sample.friendship.map .ofWrite ∧
      closing.map Exchange.statement = [.rollback] := by
  intro p planner held
  obtain ⟨-, -, sent, closing, hheld, h⟩ := mutatePair_orderly Sample.deadlocked.server [] p planner
  have hfirst : held.exchanges.head? = some begun := rfl
  have hbegun : begun ∈ sent := by
    cases sent with
    | nil => cases h.begins
    | cons e rest =>
      rw [hheld] at hfirst
      cases hfirst
      exact List.mem_cons_self
  obtain ⟨e, hfailed⟩ : ∃ e, held.result.result = .error e := ⟨_, rfl⟩
  have hclosing := h.rolledBack hbegun e hfailed
  have hstatements : held.statements =
      [.start, .lockPair p, .retired p] ++ Sample.friendship.map .ofWrite ++ [.rollback] := rfl
  rw [Transcript.statements, hheld, List.map_append, hclosing] at hstatements
  exact ⟨sent, closing, hheld, h, List.append_cancel_right hstatements, hclosing⟩

end Database
end Friendship
