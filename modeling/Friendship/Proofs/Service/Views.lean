import Friendship.Proofs.Relation.Moves
import Friendship.Proofs.Service.FriendList
import Friendship.Proofs.Service.Steps

/-!
# What two accounts see of each other

A transition that writes any row of a pair leaves no older row of it, so both rows always have the
time of the last transition that wrote one of them: `Dated`. Hence two friend lists tell of each
other's owners alike, except for a request, which only the account that was asked sees:
`views_agree`.
-/
namespace Friendship

theorem Write.since_of_stored {now : Instant} {w : Write} {row : Row}
    (h : w.stored now = some row) : row.since = now := by
  cases w with
  | put _ _ =>
    cases h
    rfl
  | delete _ => cases h

namespace Store

variable {s : Store} {policy : Policy} {now : Instant} {t : Transition} {x y : Standing}
  {p q : DirectedPair} {row : Row}

/-- A transition that writes anything leaves no older row of its pair. -/
theorem since_of_writeAll (hx : s.Stands t.pair x) (hxy : x.next policy t = .ok y)
    (hwrites : x.writes t y ≠ []) (hq : t.isBetween q = true)
    (hrow : (s.writeAll now (x.writes t y)).rows.get? q = some row) : row.since = now := by
  rw [get?_writeAll] at hrow
  cases hlast : Write.last? (x.writes t y) q with
  | some w =>
    rw [hlast] at hrow
    exact Write.since_of_stored hrow
  | none =>
    -- A row that no write names was there before, and each such row is named.
    exfalso
    rw [hlast] at hrow
    have hstatus : s.status? q = some row.status := congrArg (Option.map Row.status) hrow
    have hunnamed := Write.last?_eq_none_iff.1 hlast
    obtain ⟨hforward, hbackward⟩ := Standing.exists_write_of_row hxy hwrites
    rcases Transition.eq_pair_or_eq_reversed hq with rfl | rfl
    · rw [hx.forward] at hstatus
      obtain ⟨w, hw, hnamed⟩ := hforward (Option.isSome_of_eq_some hstatus)
      exact hunnamed w hw hnamed
    · rw [hx.backward] at hstatus
      obtain ⟨w, hw, hnamed⟩ := hbackward (Option.isSome_of_eq_some hstatus)
      exact hunnamed w hw hnamed

/-- The transition that leaves a request, if it writes anything, is the one that makes it. -/
theorem request_of_writeAll (hx : s.Stands t.pair x) (hy : x.after policy s.isLive t = .ok y)
    (hwrites : x.writes t y ≠ []) (hq : t.isBetween q = true)
    (hstatus : (s.writeAll now (x.writes t y)).status? q = some .pending) :
    t = ⟨.addFriend, q.first, q.second⟩ := by
  have hmoves := Standing.moves_of_next (Standing.next_of_after hy)
  have hleft : y = Standing.left t.action :=
    (hmoves.writes_cases.resolve_left fun hnone => hwrites hnone.2).1
  have hstands := stands_writeAll hx hy now
  rcases Transition.eq_pair_or_eq_reversed hq with rfl | rfl
  · rw [hstands.forward, Standing.forward_eq_pending_iff, hleft,
      Standing.left_eq_asking_iff] at hstatus
    obtain ⟨action, actor, other⟩ := t
    obtain rfl : action = .addFriend := hstatus
    rfl
  · rw [hstands.backward, Standing.backward_eq_pending_iff, hleft] at hstatus
    exact absurd hstatus (Standing.left_ne_asked t.action)

end Store

namespace Service.Step

variable {policy : Policy} {now : Instant} {s : Store} {step : Step} {p : DirectedPair}
  {t : Transition}

/-- The transition that a step is and its time, if it is one between the accounts of a pair and
writes any row. -/
def writing? (policy : Policy) (p : DirectedPair) (now : Instant) (s : Store) :
    Step → Option (Instant × Transition)
  | .call (.transition t) =>
    match (s.mutatePair now t.pair (t.plan policy)).1.result with
    | .ok n => if t.isBetween p ∧ n ≠ 0 then some (now, t) else none
    | .error _ => none
  | _ => none

theorem writing?_of_not_isOn (h : step.isOn p = false) : step.writing? policy p now s = none := by
  cases step with
  | call c =>
    cases c with
    | transition t =>
      have ht : t.isBetween p = false := h
      simp only [writing?, ht]
      split <;> simp
    | friends _ => rfl
  | insertAccount _ _ _ => rfl
  | deleteAccount _ => rfl

theorem writing?_reversed (p : DirectedPair) :
    step.writing? policy p.reversed now s = step.writing? policy p now s := by
  unfold writing?
  simp only [Transition.isBetween_reversed]

end Service.Step

namespace Store

variable {s : Store} {policy : Policy} {now : Instant} {t : Transition} {p : DirectedPair}
  {written : List (Instant × Transition)}

/-- The rows of a pair are of the time of the last transition that wrote any of them, and a request
was made by it. -/
def Dated (s : Store) (p : DirectedPair) (written : List (Instant × Transition)) : Prop :=
  ∀ q row, q = p ∨ q = p.reversed → s.rows.get? q = some row →
    ∃ t, written.getLast? = some (row.since, t) ∧
      (row.status = .pending → t = ⟨.addFriend, q.first, q.second⟩)

namespace Dated

theorem reversed (h : s.Dated p written) : s.Dated p.reversed written :=
  fun q row hq => h q row hq.symm

/-- A transition dates the rows of its pair, if it writes any. -/
theorem transition (hs : s.Coherent) (h : s.Dated t.pair written) (now : Instant)
    (policy : Policy) :
    (Service.perform (.memory now) policy s t).2.Dated t.pair
      (written ++ (Service.Step.writing? policy t.pair now s (.call (.transition t))).toList) := by
  obtain ⟨x, hx⟩ := hs.exists_stands t.pair
  rw [Service.perform_of_stands hs.inUse hx]
  simp only [Service.Step.writing?, Store.mutatePair_of_stands hs.inUse hx]
  cases hy : x.after policy s.isLive t with
  | error e => simpa using h
  | ok y =>
    by_cases hwrites : x.writes t y = []
    · simpa [hwrites] using h
    · intro q row hq hrow
      have hbetween : t.isBetween q = true := by
        rcases hq with rfl | rfl <;> simp
      have hsince := since_of_writeAll hx (Standing.next_of_after hy) hwrites hbetween hrow
      refine ⟨t, by simp [hwrites, hsince], fun hpending => ?_⟩
      have hstatus : (s.writeAll now (x.writes t y)).status? q = some row.status :=
        congrArg (Option.map Row.status) hrow
      exact request_of_writeAll hx hy hwrites hbetween (hpending ▸ hstatus)

/-- A step dates the rows of a pair, if it writes any. -/
theorem carryOut (hs : s.Coherent) (h : s.Dated p written) (policy : Policy) (now : Instant)
    (step : Service.Step) :
    (step.carryOut policy now s).2.Dated p
      (written ++ (step.writing? policy p now s).toList) := by
  cases hon : step.isOn p with
  | false =>
    have hon' : step.isOn p.reversed = false := (Service.Step.isOn_reversed p step).trans hon
    rw [Service.Step.writing?_of_not_isOn hon, Option.toList_none, List.append_nil]
    intro q row hq hrow
    refine h q row hq ?_
    rcases hq with rfl | rfl
    · rwa [Service.Step.get?_carryOut hon] at hrow
    · rwa [Service.Step.get?_carryOut hon'] at hrow
  | true =>
    obtain ⟨t, rfl, ht⟩ := Service.Step.isOn_iff.1 hon
    rcases Transition.eq_pair_or_eq_reversed ht with rfl | rfl
    · exact h.transition hs now policy
    · rw [Service.Step.writing?_reversed]
      exact (h.reversed.transition hs now policy).reversed

/-- Both rows of a friendship or of a block are of one time. -/
theorem mirrored {row : Row} (hs : s.Coherent) (h : s.Dated p written)
    (hrow : s.rows.get? p = some row) (hstatus : row.status ≠ .pending) :
    s.rows.get? p.reversed = some row := by
  obtain ⟨x, hx⟩ := hs.exists_stands p
  have hforward : x.snapshot.forward = some row.status := by
    rw [← hx.forward]
    exact congrArg (Option.map Row.status) hrow
  have hbackward : s.status? p.reversed = some row.status := by
    rw [hx.backward]
    exact Standing.backward_of_forward hforward hstatus
  obtain ⟨row', hrow', hsame⟩ := Option.map_eq_some_iff.1 hbackward
  obtain ⟨t, hlast, -⟩ := h p row (Or.inl rfl) hrow
  obtain ⟨t', hlast', -⟩ := h p.reversed row' (Or.inr rfl) hrow'
  have hsince : row'.since = row.since :=
    congrArg Prod.fst (Option.some.inj (hlast'.symm.trans hlast))
  rw [hrow']
  exact congrArg some (Row.ext hsame hsince)

end Dated
end Store

namespace History

/-- The transitions between the accounts of a pair that wrote any row, in order, each with its
time. -/
def writings (policy : Policy) (s : Store) (p : DirectedPair) (history : History) :
    List (Instant × Transition) :=
  (history.moments policy s).filterMap fun m => m.step.writing? policy p m.now m.before

/-- After any history the rows of a pair are of the time of the last transition that wrote any. -/
theorem dated_writings (policy : Policy) (history : History) (p : DirectedPair) :
    (history.store policy .empty).Dated p (history.writings policy .empty p) := by
  refine (moments_induction
    (P := fun done s => s.Coherent ∧
      s.Dated p (done.filterMap fun m => m.step.writing? policy p m.now m.before))
    (fun done s now step h => ?_) [] .empty ⟨.empty, fun q row _ hrow => by cases hrow⟩ history).2
  refine ⟨h.1.carryOut policy now step, ?_⟩
  have hdated := h.2.carryOut h.1 policy now step
  rw [List.filterMap_append]
  cases hwriting : step.writing? policy p now s <;> simpa [hwriting] using hdated

/-- Neither what Alice may not accept nor what comes after Bob is gone writes any row. -/
example : Sample.parting.writings {} .empty ⟨Sample.alice, Sample.bob⟩ =
    [(.ofSecond 2, ⟨.addFriend, Sample.alice, Sample.bob⟩),
      (.ofSecond 4, ⟨.acceptFriend, Sample.bob, Sample.alice⟩)] := by
  decide +kernel

end History

namespace Store

variable {s : Store} {owner id a b : AccountId} {list la lb : List Friend}
  {written : List (Instant × Transition)} {row : Row}

/-- A list has an entry for an account with the status and the time of a row. -/
def Lists (list : List Friend) (id : AccountId) (row : Row) : Prop :=
  ∃ e ∈ list, e.id = id ∧ e.status = row.status ∧ e.since = row.since

/-- The list of an account has an entry for another one if both are live and a row shows it. -/
theorem Coherent.lists_iff (h : s.Coherent) (hlist : s.listVisible owner = .ok list) :
    Lists list id row ↔ s.isLive owner = true ∧ s.isLive id = true ∧ s.Shows owner id row := by
  obtain ⟨list', hlist', hshape⟩ := h.listVisible owner
  obtain rfl : list' = list := Except.ok.inj (hlist'.symm.trans hlist)
  cases hlive : s.isLive owner with
  | false =>
    rw [hlive, if_neg Bool.false_ne_true] at hshape
    subst hshape
    simp [Lists]
  | true =>
    rw [hlive, if_pos rfl] at hshape
    constructor
    · rintro ⟨e, he, rfl, hstatus, hsince⟩
      obtain ⟨account, row', -, hshown, heq⟩ := hshape.entry e he
      have hrow : row' = row := by
        rw [heq] at hstatus hsince
        exact Row.ext hstatus hsince
      exact ⟨rfl, ((hshape.listed_iff e.id).1 ⟨e, he, rfl⟩).1, hrow ▸ hshown⟩
    · rintro ⟨-, hid, hshown⟩
      obtain ⟨e, he, rfl⟩ := (hshape.listed_iff id).2 ⟨hid, row, hshown⟩
      obtain ⟨account, row', -, hshown', heq⟩ := hshape.entry e he
      obtain rfl := hshape.shown_once e.id row row' hshown hshown'
      exact ⟨e, he, rfl, by rw [heq]; rfl, by rw [heq]; rfl⟩

/-- An entry is there for a row that shows its account, and both accounts are live. -/
theorem Coherent.of_mem (h : s.Coherent) (hlist : s.listVisible owner = .ok list) {e : Friend}
    (he : e ∈ list) :
    s.isLive owner = true ∧ s.isLive e.id = true ∧ s.Shows owner e.id ⟨e.status, e.since⟩ :=
  (h.lists_iff hlist).1 ⟨e, he, rfl, rfl, rfl⟩

/-- What the lists of two accounts tell of each other, if some transitions between them wrote
rows. -/
structure ViewsAgree (s : Store) (written : List (Instant × Transition)) (a b : AccountId)
    (la lb : List Friend) : Prop where
  /-- A friendship or a block is in both lists or in none, with one time. -/
  mutual_iff : ∀ row : Row, row.status ≠ .pending → (Lists la b row ↔ Lists lb a row)
  /-- An entry tells the time of the last transition that wrote any row of the two. -/
  dated : ∀ row, Lists la b row → ∃ t, written.getLast? = some (row.since, t)
  /-- Who is listed for a request has sent it, nothing was written since and it is still open; the
  account that has sent it does not see the other one. -/
  requested : ∀ row : Row, Lists la b row → row.status = .pending →
    written.getLast? = some (row.since, ⟨.addFriend, b, a⟩) ∧ s.Stands ⟨b, a⟩ .asking ∧
      ∀ e ∈ lb, e.id ≠ a

/-- A request is there alone. -/
theorem Coherent.asking_of_pending {p : DirectedPair} (hs : s.Coherent)
    (hrow : s.rows.get? p = some row) (hpending : row.status = .pending) : s.Stands p .asking := by
  obtain ⟨x, hx⟩ := hs.exists_stands p
  have hforward : s.status? p = some .pending :=
    hpending ▸ congrArg (Option.map Row.status) hrow
  obtain rfl : x = .asking := Standing.forward_eq_pending_iff.1 (hx.forward ▸ hforward)
  exact hx

/-- No row shows an account to the one that has asked it. -/
theorem Stands.not_shows (hx : s.Stands ⟨b, a⟩ .asking) : ¬ s.Shows b a row := by
  have hforward := hx.forward
  have hbackward := hx.backward
  rintro (⟨hrow, hkind⟩ | ⟨hrow, -⟩)
  · have hpending : row.status = .pending := by
      simpa [status?, hrow, Standing.snapshot] using hforward
    simp [hpending] at hkind
  · simp [status?, DirectedPair.reversed, hrow, Standing.snapshot] at hbackward

theorem shows_comm_of_dated (hs : s.Coherent) (h : s.Dated ⟨a, b⟩ written)
    (hstatus : row.status ≠ .pending) (hshown : s.Shows a b row) : s.Shows b a row := by
  rcases hshown with ⟨hrow, hkind⟩ | ⟨-, hpending⟩
  · exact Or.inl ⟨h.mirrored hs hrow hstatus, hkind⟩
  · exact absurd hpending hstatus

/-- After any history the lists of any two accounts agree on each other, whether both are live or
not: what a list does not show, it does not tell. -/
theorem views_agree (policy : Policy) (history : History) (a b : AccountId) :
    ∃ la lb, (history.store policy .empty).listVisible a = .ok la ∧
      (history.store policy .empty).listVisible b = .ok lb ∧
      ViewsAgree (history.store policy .empty) (history.writings policy .empty ⟨a, b⟩)
        a b la lb := by
  have hs : (history.store policy .empty).Coherent := (Reachable.empty.after history).coherent
  have hdated := history.dated_writings policy ⟨a, b⟩
  generalize history.store policy .empty = s at hs hdated ⊢
  generalize history.writings policy .empty ⟨a, b⟩ = written at hdated ⊢
  obtain ⟨la, hla, -⟩ := hs.listVisible a
  obtain ⟨lb, hlb, -⟩ := hs.listVisible b
  refine ⟨la, lb, hla, hlb, ?_, ?_, ?_⟩
  · intro row hstatus
    rw [hs.lists_iff hla, hs.lists_iff hlb]
    constructor
    · rintro ⟨ha, hb, hshown⟩
      exact ⟨hb, ha, shows_comm_of_dated hs hdated hstatus hshown⟩
    · rintro ⟨hb, ha, hshown⟩
      exact ⟨ha, hb, shows_comm_of_dated hs hdated.reversed hstatus hshown⟩
  · intro row hlisted
    obtain ⟨-, -, ⟨hrow, -⟩ | ⟨hrow, -⟩⟩ := (hs.lists_iff hla).1 hlisted
    · obtain ⟨t, hlast, -⟩ := hdated ⟨a, b⟩ row (Or.inl rfl) hrow
      exact ⟨t, hlast⟩
    · obtain ⟨t, hlast, -⟩ := hdated ⟨b, a⟩ row (Or.inr rfl) hrow
      exact ⟨t, hlast⟩
  · intro row hlisted hpending
    obtain ⟨-, -, ⟨-, hkind⟩ | ⟨hrow, -⟩⟩ := (hs.lists_iff hla).1 hlisted
    · simp [hpending] at hkind
    · have hasking := hs.asking_of_pending hrow hpending
      obtain ⟨t, hlast, hrequest⟩ := hdated ⟨b, a⟩ row (Or.inr rfl) hrow
      refine ⟨hrequest hpending ▸ hlast, hasking, fun e he hid => ?_⟩
      have hback : Lists lb a ⟨e.status, e.since⟩ := ⟨e, he, hid, rfl, rfl⟩
      exact hasking.not_shows ((hs.lists_iff hlb).1 hback).2.2

end Store
end Friendship
