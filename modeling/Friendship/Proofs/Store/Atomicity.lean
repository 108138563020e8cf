import Friendship.Proofs.Store.Plans

/-!
# All of a plan or nothing

What comes of a plan for a store in use is said by the plan alone: which of its writes is the last
of a row (`Write.IsLast`), and which account is the first that it relates and that is not live
(`FirstMissing`). Either there is such an account and the store stays as it is, or all writes are
made: `mutatePair_whole`. Nothing is asked of the store or of the plan; it may name any rows, any
number of times.
-/
namespace Friendship

namespace Write

variable {plan : List Write} {p : DirectedPair} {w : Write}

/-- The write is the last of a plan that names a row. -/
def IsLast (plan : List Write) (p : DirectedPair) (w : Write) : Prop :=
  ∃ before after, plan = before ++ w :: after ∧ w.row = p ∧ ∀ v ∈ after, v.row ≠ p

theorem IsLast.last?_eq (h : IsLast plan p w) : last? plan p = some w := by
  obtain ⟨before, after, rfl, hrow, hafter⟩ := h
  rw [last?, List.find?_eq_some_iff_append]
  refine ⟨by simpa using hrow, after.reverse, before.reverse, by simp, fun v hv => ?_⟩
  simpa using hafter v (List.mem_reverse.1 hv)

/-- A row that some write names has a last one. -/
theorem exists_isLast (h : ∃ w ∈ plan, w.row = p) : ∃ w, IsLast plan p w := by
  obtain ⟨w, hw, hrow⟩ := h
  cases hlast : last? plan p with
  | none => exact absurd hrow (last?_eq_none_iff.1 hlast w hw)
  | some v =>
    rw [last?, List.find?_eq_some_iff_append] at hlast
    obtain ⟨hv, after, before, hplan, hafter⟩ := hlast
    refine ⟨v, before.reverse, after.reverse, ?_, by simpa using hv, fun u hu => ?_⟩
    · have hreversed := congrArg List.reverse hplan
      simpa using hreversed
    · simpa using hafter u (List.mem_reverse.1 hu)

end Write

namespace Store

variable {s : Store} {plan : List Write} {id : AccountId}

/-- Both ends of a row are live accounts. -/
def Relates (s : Store) (row : DirectedPair) : Prop :=
  s.isLive row.first = true ∧ s.isLive row.second = true

/-- The first account that a plan relates and that is not live: before the write that puts its row
only live accounts are related, and the owner of that row comes before the counterparty. -/
def FirstMissing (s : Store) (plan : List Write) (id : AccountId) : Prop :=
  ∃ before row status after, plan = before ++ .put row status :: after ∧
    (∀ row status, .put row status ∈ before → s.Relates row) ∧
    (s.isLive row.first = false ∧ id = row.first ∨
      s.isLive row.first = true ∧ s.isLive row.second = false ∧ id = row.second)

/-- The first end of a write that is not live. -/
theorem find?_ends_eq_some_iff {w : Write} :
    (w.ends.find? fun id => !s.isLive id) = some id ↔
      ∃ row status, w = .put row status ∧
        (s.isLive row.first = false ∧ id = row.first ∨
          s.isLive row.first = true ∧ s.isLive row.second = false ∧ id = row.second) := by
  cases w with
  | delete row => simp [Write.ends]
  | put row status =>
    cases hfirst : s.isLive row.first <;> cases hsecond : s.isLive row.second <;>
      simp [Write.ends, hfirst, hsecond, eq_comm (a := id)]

theorem find?_ends_eq_none_iff {w : Write} :
    (w.ends.find? fun id => !s.isLive id) = none ↔
      ∀ row status, w = .put row status → s.Relates row := by
  cases w with
  | delete row => simp [Write.ends]
  | put row status => simp [Write.ends, Relates]

theorem missingEnd?_eq_some_iff : s.missingEnd? plan = some id ↔ s.FirstMissing plan id := by
  rw [missingEnd?, List.find?_flatMap, List.findSome?_eq_some_iff]
  simp only [find?_ends_eq_some_iff, find?_ends_eq_none_iff]
  constructor
  · rintro ⟨before, _, after, rfl, ⟨row, status, rfl, hid⟩, hbefore⟩
    exact ⟨before, row, status, after, rfl, fun _ _ h => hbefore _ h _ _ rfl, hid⟩
  · rintro ⟨before, row, status, after, rfl, hbefore, hid⟩
    refine ⟨before, _, after, rfl, ⟨row, status, rfl, hid⟩, ?_⟩
    rintro _ hw row status rfl
    exact hbefore row status hw

/-- What is left when all writes of a plan are made: a row as the last write of it says, and all
else as it was. -/
structure Carries (s : Store) (now : Instant) (plan : List Write) (after : Store) : Prop where
  accounts : after.accounts = s.accounts
  inUse : after.poisoned = s.poisoned
  written : ∀ p w, Write.IsLast plan p w → after.rows.get? p = w.stored now
  kept : ∀ p, (∀ w ∈ plan, w.row ≠ p) → after.rows.get? p = s.rows.get? p

theorem carries_writeAll (s : Store) (now : Instant) (plan : List Write) :
    s.Carries now plan (s.writeAll now plan) where
  accounts := rfl
  inUse := rfl
  written p w h := by
    rw [get?_writeAll, h.last?_eq]
    rfl
  kept _ h := get?_writeAll_of_ne h

/-- All or nothing. Whoever changes a pair of a store in use is shown the statuses of its two rows.
If the planner refuses, that is the answer and the store stays as it is. If its plan puts a row one
of whose ends is not a live account, the first such account is told and the store stays as it is.
Else every row that the plan names is as the last write of it leaves it, all else is as it was, and
the answer is the number of writes. -/
theorem mutatePair_whole (hs : s.poisoned = false) (now : Instant) (p : DirectedPair)
    (planner : Planner) :
    let seen : Snapshot := ⟨(s.rows.get? ⟨p.first, p.second⟩).map Row.status,
      (s.rows.get? ⟨p.second, p.first⟩).map Row.status⟩
    let changed := s.mutatePair now p planner
    changed.1.seen = some seen ∧
    (∀ e, planner seen = .error e → changed.1.result = .error e ∧ changed.2 = s) ∧
    ∀ plan, planner seen = .ok plan →
      ((∃ row status, .put row status ∈ plan ∧ ¬ s.Relates row) →
        ∃ id, s.FirstMissing plan id ∧ changed.1.result = .error (.userNotFound id) ∧
          changed.2 = s) ∧
      ((∀ row status, .put row status ∈ plan → s.Relates row) →
        changed.1.result = .ok plan.length ∧ s.Carries now plan changed.2 ∧
          ∀ p, (∃ w ∈ plan, w.row = p) → ∃ w, Write.IsLast plan p w) := by
  intro seen changed
  have hseen : s.snapshot p = seen := rfl
  rcases mutatePair_cases hs now p planner with
    ⟨e, hplan, heq⟩ | ⟨plan, id, hplan, hend, heq⟩ | ⟨plan, hplan, hend, heq⟩
  all_goals
    rw [hseen] at hplan heq
    simp only [changed, heq, hplan]
  · refine ⟨trivial, ?_, nofun⟩
    rintro _ ⟨⟩
    exact ⟨rfl, trivial⟩
  · have hmissing := missingEnd?_eq_some_iff.1 hend
    refine ⟨trivial, nofun, ?_⟩
    rintro _ ⟨⟩
    refine ⟨fun _ => ⟨id, hmissing, rfl, trivial⟩, fun hlive => ?_⟩
    obtain ⟨before, row, status, after, rfl, -, hdead⟩ := hmissing
    have hrelated := hlive row status (List.mem_append_right _ List.mem_cons_self)
    rcases hdead with ⟨hfirst, -⟩ | ⟨-, hsecond, -⟩
    · exact absurd hrelated.1 (by simp [hfirst])
    · exact absurd hrelated.2 (by simp [hsecond])
  · refine ⟨trivial, nofun, ?_⟩
    rintro _ ⟨⟩
    refine ⟨fun ⟨row, status, hput, hdead⟩ => ?_, fun _ => ?_⟩
    · have hlive := missingEnd?_eq_none_iff.1 hend _ hput
      exact absurd ⟨hlive row.first (by simp [Write.ends]), hlive row.second (by simp [Write.ends])⟩
        hdead
    · exact ⟨rfl, carries_writeAll s now plan, fun _ => Write.exists_isLast⟩

end Store

namespace Sample

/-- Nobody has this id. -/
def ghost : AccountId := ⟨List.replicate 16 9, rfl⟩

/-- The rows between Alice and Bob are written over and over. -/
def churn : List Write :=
  [.put ⟨alice, bob⟩ .blocked, .delete ⟨alice, bob⟩, .put ⟨bob, alice⟩ .pending,
    .put ⟨alice, bob⟩ .accepted, .delete ⟨bob, alice⟩]

/-- The same, and in the end Bob asks nobody. -/
def stray : List Write := churn ++ [.put ⟨bob, ghost⟩ .pending]

end Sample

namespace Store

/-- Of many writes of one row the last one stays, and none of them if somebody is missing in the
end. -/
theorem mutatePair_whole_churn :
    let p : DirectedPair := ⟨Sample.alice, Sample.bob⟩
    let change := fun plan => Sample.members.mutatePair (.ofSecond 7) p (.fixed (.ok plan))
    ((change Sample.churn).1.result = .ok 5 ∧
      (change Sample.churn).2.rows.get? p = some ⟨.accepted, .ofSecond 7⟩) ∧
    (change Sample.stray).1.result = .error (.userNotFound Sample.ghost) ∧
      (change Sample.stray).2 = Sample.members := by
  intro p change
  have hwhole := fun plan => mutatePair_whole (s := Sample.members) rfl (.ofSecond 7) p
    (.fixed (.ok plan))
  constructor
  · have hlive : ∀ row status, .put row status ∈ Sample.churn → Sample.members.Relates row := by
      intro row status h
      simp only [Sample.churn, List.mem_cons, Write.put.injEq, reduceCtorEq, false_or,
        List.not_mem_nil, or_false] at h
      rcases h with ⟨rfl, -⟩ | ⟨rfl, -⟩ | ⟨rfl, -⟩ <;> exact ⟨by decide, by decide⟩
    obtain ⟨hresult, hcarries, -⟩ := ((hwhole Sample.churn).2.2 _ rfl).2 hlive
    refine ⟨hresult, hcarries.written p (.put p .accepted) ?_⟩
    exact ⟨Sample.churn.take 3, [.delete p.reversed], rfl, rfl, by decide⟩
  · have hput : .put ⟨Sample.bob, Sample.ghost⟩ .pending ∈ Sample.stray := by simp [Sample.stray]
    have hdead : ¬ Sample.members.Relates ⟨Sample.bob, Sample.ghost⟩ :=
      fun h => absurd h.2 (by decide)
    obtain ⟨id, hmissing, hresult, hsame⟩ :=
      ((hwhole Sample.stray).2.2 _ rfl).1 ⟨_, _, hput, hdead⟩
    have hghost : Sample.members.missingEnd? Sample.stray = some Sample.ghost := by decide
    rw [missingEnd?_eq_some_iff.2 hmissing, Option.some.injEq] at hghost
    rw [hghost] at hresult
    exact ⟨hresult, hsame⟩

end Store
end Friendship
