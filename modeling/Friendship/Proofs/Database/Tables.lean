import Friendship.Database.Ideal
import Friendship.Proofs.Database.Protocol
import Friendship.Proofs.Relation.Plans
import Mathlib.Data.List.Find
import Mathlib.Data.List.Permutation

/-!
# Transactions on a server that keeps tables

The parts of a transaction are told by their outcomes on an ideal server: which result they come
to and what they leave of the tables. Together they say what becomes of a plan: a plan between
live accounts is published by `outcome_carryOut_of_live`, any other is refused by
`outcome_carryOut_of_dead`. Where statements fail on the way to the server, nothing is published
unless the commit succeeds: `published_of_not_committed`.
-/
namespace Friendship.Database

namespace Dialogue

variable {α β σ : Type}

/-- The result of a dialogue and the server after it. -/
def outcome (server : Server σ) (d : Dialogue α) (s : σ) : α × σ :=
  ((d.run server s).result, (d.run server s).server)

theorem outcome_bind (server : Server σ) (d : Dialogue α) (f : α → Dialogue β) (s : σ) :
    (d >>= f).outcome server s =
      (f (d.outcome server s).1).outcome server (d.outcome server s).2 := by
  simp only [outcome, run_bind]

theorem outcome_bind_of {server : Server σ} {d : Dialogue α} (f : α → Dialogue β) {s s' : σ}
    {a : α} (h : d.outcome server s = (a, s')) :
    (d >>= f).outcome server s = (f a).outcome server s' := by
  rw [outcome_bind, h]

end Dialogue

namespace Request

variable {α β σ : Type} {server : Server σ} {r : Request α} {f : α → Request β} {s s' : σ}

theorem outcome_bind_ok {a : α} (h : r.run.outcome server s = (.ok a, s')) :
    (r >>= f).run.outcome server s = (f a).run.outcome server s' :=
  Dialogue.outcome_bind_of (ExceptT.bindCont f) h

theorem outcome_bind_error {e : RelationError} (h : r.run.outcome server s = (.error e, s')) :
    (r >>= f).run.outcome server s = (.error e, s') :=
  Dialogue.outcome_bind_of (ExceptT.bindCont f) h

end Request

@[simp] theorem readStatus_text (status : Status) : readStatus status.text = .ok status := by
  simp [readStatus]

section Parts

variable (manner : Manner) (d : Store) {s : Store} {p : DirectedPair} {plan : List Write}

/-- The rows of a pair can be read in any order. -/
theorem snapshotOf_of_perm {rows : List (DirectedPair × String)}
    (hrows : rows.Perm (Ideal.pairRows s p)) : ∃ seen, snapshotOf p rows = .ok seen := by
  refine snapshotOf_eq_ok_iff.2 fun row hrow => ?_
  obtain ⟨q, -, hq⟩ := List.mem_filterMap.1 (hrows.subset hrow)
  obtain ⟨stored, -, rfl⟩ := Option.map_eq_some_iff.1 hq
  simp

/-- In whatever order the two rows of a pair come, they show the same. -/
theorem snapshotOf_of_perm_of_ne (hp : p.first ≠ p.second) {rows : List (DirectedPair × String)}
    (hrows : rows.Perm (Ideal.pairRows s p)) : snapshotOf p rows = .ok (s.snapshot p) := by
  have hne : p.reversed ≠ p := DirectedPair.reversed_ne hp
  have hdirections : Ideal.directions p = [p, p.reversed] := by
    simp [Ideal.directions, DirectedPair.isReflexive, hp]
  unfold Ideal.pairRows at hrows
  simp only [hdirections, List.filterMap_cons, List.filterMap_nil] at hrows
  unfold Store.snapshot
  cases hf : s.rows.get? p with
  | none =>
    cases hb : s.rows.get? p.reversed with
    | none =>
      simp only [hf, hb, Option.map_none, List.perm_nil] at hrows
      rw [hrows]
      rfl
    | some backward =>
      simp only [hf, hb, Option.map_none, Option.map_some, List.perm_singleton] at hrows
      simp [hrows, snapshotOf, hne, pure, Except.pure, bind, Except.bind]
  | some forward =>
    cases hb : s.rows.get? p.reversed with
    | none =>
      simp only [hf, hb, Option.map_none, Option.map_some, List.perm_singleton] at hrows
      simp [hrows, snapshotOf, pure, Except.pure, bind, Except.bind]
    | some backward =>
      -- Only here is there an order to choose.
      simp only [hf, hb, Option.map_some, List.perm_pair] at hrows
      rcases hrows with rfl | rfl <;>
        simp [snapshotOf, hne, pure, Except.pure, bind, Except.bind]

theorem outcome_lockPair (s : Store) (p : DirectedPair) :
    (lockPair p).run.outcome (Ideal.server manner) ⟨d, some s⟩ =
      (snapshotOf p (manner.lockedOrder (Ideal.pairRows s p)), ⟨d, some s⟩) := by
  have hrows : (request .lockPair (.lockPair p)).run.outcome (Ideal.server manner) ⟨d, some s⟩ =
      (.ok (manner.lockedOrder (Ideal.pairRows s p)), ⟨d, some s⟩) := rfl
  unfold lockPair
  rw [Request.outcome_bind_ok hrows]
  cases snapshotOf p (manner.lockedOrder (Ideal.pairRows s p)) <;> rfl

/-- The deleted accounts that the server tells are those of the pair. -/
theorem mem_of_perm_retired {ids : List AccountId} (hids : ids.Perm (Ideal.retired s p))
    {id : AccountId} :
    id ∈ ids ↔ (id = p.first ∨ id = p.second) ∧ (s.accounts.get? id).any Account.deleted := by
  have hends : id ∈ (Ideal.directions p).map DirectedPair.first ↔
      id = p.first ∨ id = p.second := by
    unfold Ideal.directions DirectedPair.isReflexive
    by_cases hp : p.first = p.second <;> simp [hp, DirectedPair.reversed]
  rw [hids.mem_iff, Ideal.retired, List.mem_filter, hends]

theorem outcome_put (s : Store) (row : DirectedPair) (status : Status) :
    (write (.put row status)).run.outcome (Ideal.server manner) ⟨d, some s⟩ =
      match Ideal.violated? s row with
      | some key => (.error (putError row (.server (manner.refusal key))), ⟨d, some s⟩)
      | none => (.ok (), ⟨d, some (s.writeAll manner.now [.put row status])⟩) := by
  have houtcome : (write (.put row status)).run.outcome (Ideal.server manner) ⟨d, some s⟩ =
      ((Ideal.answer manner ⟨d, some s⟩ (.put row status)).1.mapError (putError row),
        (Ideal.answer manner ⟨d, some s⟩ (.put row status)).2) := rfl
  rw [houtcome]
  simp only [Ideal.answer, Ideal.current, Option.getD_some]
  cases Ideal.violated? s row <;> rfl

/-- The accounts that a plan relates are there, deleted or not. -/
def Known (s : Store) (plan : List Write) : Prop :=
  ∀ w ∈ plan, ∀ id ∈ w.ends, (s.accounts.get? id).isSome = true

theorem known_cons {w : Write} : Known s (w :: plan) ↔ Known s [w] ∧ Known s plan := by
  simp [Known]

theorem outcome_write_of_known {w : Write} (h : Known s [w]) :
    (write w).run.outcome (Ideal.server manner) ⟨d, some s⟩ =
      (.ok (), ⟨d, some (s.writeAll manner.now [w])⟩) := by
  cases w with
  | delete row => rfl
  | put row status =>
    have hfirst := h _ List.mem_cons_self row.first (by simp [Write.ends])
    have hsecond := h _ List.mem_cons_self row.second (by simp [Write.ends])
    have hnone : Ideal.violated? s row = none := by
      simp [Ideal.violated?, ← Option.not_isSome, hfirst, hsecond]
    rw [outcome_put, hnone]

/-- The first account that a plan relates and that is not there, the owner of a row before its
counterparty. -/
def unknownEnd? (s : Store) (plan : List Write) : Option AccountId :=
  (plan.flatMap Write.ends).find? fun id => (s.accounts.get? id).isNone

theorem unknownEnd?_cons {w : Write} :
    unknownEnd? s (w :: plan) = (unknownEnd? s [w]).or (unknownEnd? s plan) := by
  simp [unknownEnd?, List.find?_append]

theorem unknownEnd?_eq_none_iff : unknownEnd? s plan = none ↔ Known s plan := by
  simp only [unknownEnd?, List.find?_eq_none, List.mem_flatMap, Known, Option.isNone_iff_eq_none,
    ← Option.isSome_iff_ne_none]
  constructor
  · intro h w hw id hid
    exact h id ⟨w, hw, hid⟩
  · rintro h id ⟨w, hw, hid⟩
    exact h w hw id hid

/-- A row of an account that is not there is refused, and the account is told. -/
theorem outcome_write_of_unknown {w : Write} {id : AccountId} (h : unknownEnd? s [w] = some id) :
    (write w).run.outcome (Ideal.server manner) ⟨d, some s⟩ =
      (.error (.userNotFound id), ⟨d, some s⟩) := by
  cases w with
  | delete row => cases h
  | put row status =>
    rw [outcome_put]
    unfold Ideal.violated?
    by_cases hfirst : (s.accounts.get? row.first).isNone = true
    · obtain rfl : row.first = id := by simpa [unknownEnd?, Write.ends, hfirst] using h
      simp [hfirst, putError, manner.foreignKey?_refusal]
    · by_cases hsecond : (s.accounts.get? row.second).isNone = true
      · obtain rfl : row.second = id := by simpa [unknownEnd?, Write.ends, hfirst, hsecond] using h
        simp [hfirst, hsecond, putError, manner.foreignKey?_refusal]
      · simp [unknownEnd?, Write.ends, hfirst, hsecond] at h

theorem outcome_writeAll_of_known (h : Known s plan) :
    (writeAll plan).run.outcome (Ideal.server manner) ⟨d, some s⟩ =
      (.ok (), ⟨d, some (s.writeAll manner.now plan)⟩) := by
  induction plan generalizing s with
  | nil => rfl
  | cons w plan ih =>
    obtain ⟨hw, hplan⟩ := known_cons.1 h
    have hrest : Known (s.writeAll manner.now [w]) plan := hplan
    exact (Request.outcome_bind_ok (outcome_write_of_known manner d hw)).trans (ih hrest)

theorem outcome_writeAll_of_unknown {id : AccountId} (h : unknownEnd? s plan = some id) :
    ∃ s', (writeAll plan).run.outcome (Ideal.server manner) ⟨d, some s⟩ =
      (.error (.userNotFound id), ⟨d, some s'⟩) := by
  induction plan generalizing s with
  | nil => cases h
  | cons w plan ih =>
    rw [unknownEnd?_cons] at h
    cases hw : unknownEnd? s [w] with
    | none =>
      -- The write leaves the accounts alone, so the row that is refused comes later.
      rw [hw, Option.none_or] at h
      have hrest : unknownEnd? (s.writeAll manner.now [w]) plan = some id := h
      have hmade := outcome_write_of_known manner d (unknownEnd?_eq_none_iff.1 hw)
      obtain ⟨s', hs'⟩ := ih hrest
      exact ⟨s', (Request.outcome_bind_ok hmade).trans hs'⟩
    | some id' =>
      obtain rfl : id' = id := by simpa [hw] using h
      exact ⟨s, Request.outcome_bind_error (outcome_write_of_unknown manner d hw)⟩

/-- The accounts of a plan for a pair are those of the pair. -/
theorem mem_pair_of_mem_ends (hrows : ∀ w ∈ plan, w.row = p ∨ w.row = p.reversed) {w : Write}
    (hw : w ∈ plan) {id : AccountId} (hid : id ∈ w.ends) : id = p.first ∨ id = p.second := by
  have hends := (Write.mem_ends_iff.1 hid).2
  rcases hrows w hw with h | h
  · rwa [h] at hends
  · rw [h] at hends
    exact hends.symm

/-- The check of a plan for a pair finds its first account that is deleted. -/
theorem retiredEnd?_eq_find? (hrows : ∀ w ∈ plan, w.row = p ∨ w.row = p.reversed)
    {ids : List AccountId} (hids : ids.Perm (Ideal.retired s p)) :
    retiredEnd? ids plan =
      (plan.flatMap Write.ends).find? fun id => (s.accounts.get? id).any Account.deleted := by
  refine List.find?_congr fun id hid => ?_
  obtain ⟨w, hw, hid⟩ := List.mem_flatMap.1 hid
  have hpair := mem_pair_of_mem_ends hrows hw hid
  rw [Bool.eq_iff_iff, decide_eq_true_eq, mem_of_perm_retired hids]
  exact and_iff_right hpair

/-- A plan for a pair passes the check if and only if none of its accounts is deleted. -/
theorem retiredEnd?_eq_none_iff (hrows : ∀ w ∈ plan, w.row = p ∨ w.row = p.reversed)
    {ids : List AccountId} (hids : ids.Perm (Ideal.retired s p)) :
    retiredEnd? ids plan = none ↔
      ∀ w ∈ plan, ∀ id ∈ w.ends, (s.accounts.get? id).any Account.deleted = false := by
  simp only [retiredEnd?_eq_find? hrows hids, List.find?_eq_none, List.mem_flatMap,
    Bool.not_eq_true]
  constructor
  · intro h w hw id hid
    exact h id ⟨w, hw, hid⟩
  · rintro h id ⟨w, hw, hid⟩
    exact h w hw id hid

/-- A plan that puts nothing passes the check without being asked for. -/
theorem retiredEnd?_eq_none_of_no_put (ids : List AccountId) (h : plan.any Write.isPut = false) :
    retiredEnd? ids plan = none := by
  rw [retiredEnd?, Write.flatMap_ends_of_no_put h, List.find?_nil]

theorem outcome_checkRetired (s : Store) (p : DirectedPair) (plan : List Write) :
    (checkRetired p plan).run.outcome (Ideal.server manner) ⟨d, some s⟩ =
      match retiredEnd? (manner.retiredOrder (Ideal.retired s p)) plan with
      | some id => (.error (.userNotFound id), ⟨d, some s⟩)
      | none => (.ok (), ⟨d, some s⟩) := by
  unfold checkRetired
  cases hput : plan.any Write.isPut with
  | false =>
    rw [retiredEnd?_eq_none_of_no_put _ hput]
    rfl
  | true =>
    have hids : (request .checkRetired (.retired p)).run.outcome (Ideal.server manner)
        ⟨d, some s⟩ = (.ok (manner.retiredOrder (Ideal.retired s p)), ⟨d, some s⟩) := rfl
    rw [if_pos rfl, Request.outcome_bind_ok hids]
    cases retiredEnd? (manner.retiredOrder (Ideal.retired s p)) plan <;> rfl

/-- The accounts of a plan are all live if and only if they are all there and none is deleted. -/
theorem missingEnd?_eq_none_iff_known :
    s.missingEnd? plan = none ↔ Known s plan ∧
      ∀ w ∈ plan, ∀ id ∈ w.ends, (s.accounts.get? id).any Account.deleted = false := by
  simp only [Store.missingEnd?_eq_none_iff, Store.isLive_eq_true_iff, Known]
  constructor
  · intro h
    exact ⟨fun w hw id hid => (h w hw id hid).1, fun w hw id hid => (h w hw id hid).2⟩
  · rintro ⟨hknown, hdeleted⟩ w hw id hid
    exact ⟨hknown w hw id hid, hdeleted w hw id hid⟩

theorem carryOut_ok (p : DirectedPair) (plan : List Write) :
    carryOut p (.ok plan) = (do
      checkRetired p plan
      writeAll plan
      request .commit .commit
      pure plan.length) := rfl

/-- A plan between live accounts is carried out and published. -/
theorem outcome_carryOut_of_live (hrows : ∀ w ∈ plan, w.row = p ∨ w.row = p.reversed)
    (h : s.missingEnd? plan = none) :
    (carryOut p (.ok plan)).run.outcome (Ideal.server manner) ⟨d, some s⟩ =
      (.ok plan.length, ⟨s.writeAll manner.now plan, none⟩) := by
  obtain ⟨hknown, hdeleted⟩ := missingEnd?_eq_none_iff_known.1 h
  have hcheck := outcome_checkRetired manner d s p plan
  rw [(retiredEnd?_eq_none_iff hrows (manner.retiredOrder_perm _)).2 hdeleted] at hcheck
  rw [carryOut_ok, Request.outcome_bind_ok hcheck,
    Request.outcome_bind_ok (outcome_writeAll_of_known manner d hknown)]
  rfl

/-- A plan fails by the first of its accounts that is deleted, or else by the first that is not
there. -/
theorem outcome_carryOut_of_missing {id : AccountId}
    (h : (retiredEnd? (manner.retiredOrder (Ideal.retired s p)) plan).or (unknownEnd? s plan) =
      some id) :
    ∃ s', (carryOut p (.ok plan)).run.outcome (Ideal.server manner) ⟨d, some s⟩ =
      (.error (.userNotFound id), ⟨d, some s'⟩) := by
  have hcheck := outcome_checkRetired manner d s p plan
  rw [carryOut_ok]
  cases hend : retiredEnd? (manner.retiredOrder (Ideal.retired s p)) plan with
  | some id' =>
    rw [hend] at h hcheck
    obtain rfl : id' = id := Option.some.inj h
    exact ⟨s, Request.outcome_bind_error hcheck⟩
  | none =>
    rw [hend] at h hcheck
    obtain ⟨s', hs'⟩ := outcome_writeAll_of_unknown manner d h
    refine ⟨s', ?_⟩
    rw [Request.outcome_bind_ok hcheck]
    exact Request.outcome_bind_error hs'

/-- A plan with an account that is not live fails, and nothing is published. -/
theorem outcome_carryOut_of_dead (hrows : ∀ w ∈ plan, w.row = p ∨ w.row = p.reversed)
    {id : AccountId} (h : s.missingEnd? plan = some id) :
    ∃ id' s', (carryOut p (.ok plan)).run.outcome (Ideal.server manner) ⟨d, some s⟩ =
      (.error (.userNotFound id'), ⟨d, some s'⟩) := by
  cases hmissing : (retiredEnd? (manner.retiredOrder (Ideal.retired s p)) plan).or
      (unknownEnd? s plan) with
  | some id' => exact ⟨id', outcome_carryOut_of_missing manner d hmissing⟩
  | none =>
    obtain ⟨hretired, hunknown⟩ := Option.or_eq_none_iff.1 hmissing
    have hdeleted := (retiredEnd?_eq_none_iff hrows (manner.retiredOrder_perm _)).1 hretired
    rw [missingEnd?_eq_none_iff_known.2 ⟨unknownEnd?_eq_none_iff.1 hunknown, hdeleted⟩] at h
    cases h

/-- What comes of a planner's answer to the locked rows; a failure is forgotten by the server. -/
theorem outcome_mutatePair {planner : Planner} {seen : Snapshot}
    (hseen : snapshotOf p (manner.lockedOrder (Ideal.pairRows d p)) = .ok seen) :
    (mutatePair p planner).outcome (Ideal.server manner) ⟨d, none⟩ =
      match (carryOut p (planner seen)).run.outcome (Ideal.server manner) ⟨d, some d⟩ with
      | (.error e, s) => (⟨some seen, .error e⟩, ⟨s.published, none⟩)
      | (.ok n, s) => (⟨some seen, .ok n⟩, s) := by
  have hstart : (request .start .start).run.outcome (Ideal.server manner) ⟨d, none⟩ =
      (.ok (), ⟨d, some d⟩) := rfl
  have hlock := outcome_lockPair manner d d p
  rw [hseen] at hlock
  unfold mutatePair
  rw [Dialogue.outcome_bind_of _ hstart]
  simp only
  rw [Dialogue.outcome_bind_of _ hlock]
  simp only
  rw [Dialogue.outcome_bind]
  rcases (carryOut p (planner seen)).run.outcome (Ideal.server manner) ⟨d, some d⟩ with ⟨e | n, s⟩
  · rfl
  · rfl

end Parts

section Failures

variable {α σ : Type}

theorem failing_answer (server : Server σ) (failure? : Nat → Option QueryError) (s : σ)
    (sent : Nat) (q : Statement) :
    (server.failing failure?).answer (s, sent) q =
      match if q = .rollback then none else failure? sent with
      | some e => (.error e, (s, sent + 1))
      | none => ((server.answer s q).1, ((server.answer s q).2, sent + 1)) := rfl

/-- A statement that is made to fail is answered with the failure. -/
theorem mem_exchanges_of_failure (server : Server σ) (failure? : Nat → Option QueryError)
    (dialogue : Dialogue α) (s : σ) (sent : Nat) {n : Nat} {q : Statement} {e : QueryError}
    (hq : (dialogue.run (server.failing failure?) (s, sent)).statements[n]? = some q)
    (hne : q ≠ .rollback) (he : failure? (sent + n) = some e) :
    ⟨q, .error e⟩ ∈ (dialogue.run (server.failing failure?) (s, sent)).exchanges := by
  induction dialogue generalizing s sent n with
  | done a => cases hq
  | ask first next ih =>
    cases n with
    | zero =>
      obtain rfl : first = q := Option.some.inj hq
      have hfails : ((server.failing failure?).answer (s, sent) first).1 = .error e := by
        simp only [Nat.add_zero] at he
        simp only [failing_answer, hne, if_false, he]
      exact List.mem_cons.2 (Or.inl (congrArg (Exchange.mk first) hfails.symm))
    | succ n =>
      obtain ⟨s', hs'⟩ : ∃ s', ((server.failing failure?).answer (s, sent) first).2 =
          (s', sent + 1) := by
        rw [failing_answer]
        split <;> exact ⟨_, rfl⟩
      simp only [Dialogue.run, Transcript.statements, List.map_cons, List.getElem?_cons_succ,
        hs'] at hq
      simp only [Dialogue.run, hs']
      exact List.mem_cons_of_mem _ (ih _ s' (sent + 1) hq (by rwa [Nat.add_right_comm]))

/-- Only a commit publishes anything. -/
theorem published_answer {manner : Manner} {s : Ideal} {q : Statement} (hq : q ≠ .commit) :
    (Ideal.answer manner s q).2.published = s.published := by
  cases q with
  | start => rfl
  | commit => exact absurd rfl hq
  | rollback => rfl
  | lockPair p => rfl
  | retired p => rfl
  | put row status =>
    simp only [Ideal.answer]
    split <;> rfl
  | delete row => rfl
  | list owner => rfl
  | count id => rfl
  | upkeep u => cases u <;> rfl

/-- Nothing but a commit that succeeds publishes anything, even if statements fail on the way. -/
theorem published_failing_answer {manner : Manner} {failure? : Nat → Option QueryError} {s : Ideal}
    {sent : Nat} {q : Statement}
    (h : (⟨.commit, .ok ()⟩ : Exchange) ≠
      ⟨q, (((Ideal.server manner).failing failure?).answer (s, sent) q).1⟩) :
    (((Ideal.server manner).failing failure?).answer (s, sent) q).2.1.published = s.published := by
  rw [failing_answer] at h ⊢
  split at h
  · rfl
  · refine published_answer ?_
    rintro rfl
    exact h rfl

/-- Without a commit that succeeds a dialogue publishes nothing. -/
theorem published_of_not_committed {manner : Manner} {failure? : Nat → Option QueryError}
    (dialogue : Dialogue α) (s : Ideal) (sent : Nat)
    (h : ⟨.commit, .ok ()⟩ ∉
      (dialogue.run ((Ideal.server manner).failing failure?) (s, sent)).exchanges) :
    (dialogue.run ((Ideal.server manner).failing failure?) (s, sent)).server.1.published =
      s.published := by
  induction dialogue generalizing s sent with
  | done a => rfl
  | ask q next ih =>
    have hrest := ih _ _ _ (List.not_mem_of_not_mem_cons h)
    exact hrest.trans (published_failing_answer (List.ne_of_not_mem_cons h))

/-- If a statement of a transaction fails, and it is not the rollback, then the whole fails and
nothing is published. -/
theorem mutatePair_of_failure {manner : Manner} {failure? : Nat → Option QueryError}
    (p : DirectedPair) (planner : Planner) (s : Ideal) {n : Nat} {q : Statement} {e : QueryError}
    (hq : ((mutatePair p planner).run ((Ideal.server manner).failing failure?)
      (s, 0)).statements[n]? = some q)
    (hne : q ≠ .rollback) (he : failure? n = some e) :
    (∃ e', ((mutatePair p planner).run ((Ideal.server manner).failing failure?)
      (s, 0)).result.result = .error e') ∧
    ((mutatePair p planner).run ((Ideal.server manner).failing failure?)
      (s, 0)).server.1.published = s.published := by
  have hfailed := mem_exchanges_of_failure _ failure? (mutatePair p planner) s 0 hq hne
    ((Nat.zero_add n).symm ▸ he)
  obtain ⟨sent, closing, heq, h⟩ := transaction_of_course
    (Dialogue.course_run ((Ideal.server manner).failing failure?) (mutatePair p planner) (s, 0))
  rw [heq] at hfailed
  cases hresult : ((mutatePair p planner).run ((Ideal.server manner).failing failure?)
      (s, 0)).result.result with
  | ok m =>
    have := h.all_succeeded hresult _ hfailed
    cases this
  | error e' =>
    refine ⟨⟨e', rfl⟩, published_of_not_committed _ s 0 ?_⟩
    rw [heq]
    exact h.orderly.not_committed hresult

end Failures

end Friendship.Database
