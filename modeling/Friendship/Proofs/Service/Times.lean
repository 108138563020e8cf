import Mathlib.Data.List.Basic
import Friendship.Proofs.Service.Consent
import Friendship.Proofs.Service.Views

/-!
# The time that a list tells

A block and an unblocking write both rows of a pair whatever statuses they have, and a row that is
written gets the time of the write. So the steps that give the rows of a pair their time are those
that change a status of it and, besides, each block and each unblocking that succeeds:
`Moment.stamps`, which are the steps that write (`map_fst_writings`). Hence a list tells the time of
the last one of these, `listed_times`, and not always that of the last change,
`since_not_of_last_change`.
-/
namespace Friendship

namespace Store

variable {s s' : Store} {p : DirectedPair}

theorem snapshot_reversed_inj :
    s.snapshot p.reversed = s'.snapshot p.reversed ↔ s.snapshot p = s'.snapshot p := by
  simp [snapshot_eq, and_comm]

/-- What has its status of before and another time is the row of before but for the time. -/
theorem get?_eq_restamped {now : Instant} (hstatus : s'.status? p = s.status? p)
    (hsince : ∀ row, s'.rows.get? p = some row → row.since = now) :
    s'.rows.get? p = (s.rows.get? p).map fun row => { row with since := now } := by
  have hstatus : (s'.rows.get? p).map Row.status = (s.rows.get? p).map Row.status := hstatus
  cases hrow : s'.rows.get? p with
  | none =>
    rw [hrow] at hstatus
    rw [Option.map_eq_none_iff.1 hstatus.symm, Option.map_none]
  | some row =>
    rw [hrow] at hstatus
    obtain ⟨old, hold, hsame⟩ := Option.map_eq_some_iff.1 hstatus.symm
    rw [hold, Option.map_some]
    exact congrArg some (Row.ext hsame.symm (hsince row hrow))

end Store

namespace History

variable {policy : Policy} {now : Instant} {s : Store} {step : Service.Step} {p : DirectedPair}
  {t : Transition} {x y : Standing}

/-- The step changed a status of the pair; that a row comes or goes is a change, too. -/
def Moment.changes (p : DirectedPair) (m : Moment) : Bool :=
  m.before.snapshot p ≠ m.after.snapshot p

/-- The step changed a status of the pair, or it was a block or an unblocking that succeeded, be it
that this changed nothing. -/
def Moment.stamps (p : DirectedPair) (m : Moment) : Bool :=
  m.changes p || (m.success? p).any fun t => t.action.overwrites

/-- The time of the last moment of a kind. -/
def lastTime? (kind : Moment → Bool) (moments : List Moment) : Option Instant :=
  (moments.filter kind).getLast?.map Moment.now

@[simp] theorem Moment.changes_reversed (p : DirectedPair) (m : Moment) :
    m.changes p.reversed = m.changes p := by
  simp only [Moment.changes, ne_eq, Store.snapshot_reversed_inj]

@[simp] theorem Moment.stamps_reversed (p : DirectedPair) (m : Moment) :
    m.stamps p.reversed = m.stamps p := by
  simp only [Moment.stamps, Moment.changes_reversed, Moment.success?,
    Transition.isBetween_reversed]

theorem Moment.stamps_pair (ht : t.isBetween p = true) (m : Moment) :
    m.stamps p = m.stamps t.pair := by
  rcases Transition.eq_pair_or_eq_reversed ht with rfl | rfl
  · rfl
  · exact m.stamps_reversed t.pair

/-! ## The steps that write -/

theorem stamps_of_not_isOn (hon : step.isOn p = false) :
    (Moment.of policy now s step).stamps p = false := by
  simp [Moment.stamps, Moment.changes, Moment.success?_of_not_isOn hon,
    Service.Step.snapshot_carryOut hon]

/-- What is refused stamps nothing. -/
theorem stamps_of_error (hs : s.Coherent) (hx : s.Stands t.pair x) {e : RelationError}
    (hy : x.after policy s.isLive t = .error e) (now : Instant) :
    (Moment.of policy now s (.call (.transition t))).stamps t.pair = false := by
  have hperform := Service.perform_of_stands hs.inUse hx now policy
  rw [hy] at hperform
  simp [Moment.stamps, Moment.changes, Moment.success?_of (Transition.isBetween_pair t),
    Service.Step.carryOut_transition, hperform, Except.toOption]

/-- What is not refused stamps the rows of its pair if it writes any. -/
theorem stamps_iff_writes (hs : s.Coherent) (hx : s.Stands t.pair x)
    (hy : x.after policy s.isLive t = .ok y) (now : Instant) :
    (Moment.of policy now s (.call (.transition t))).stamps t.pair = true ↔
      x.writes t y ≠ [] := by
  have hsame := hx.snapshot_eq_iff (Store.stands_writeAll hx hy now)
  have hperform := Service.perform_of_stands hs.inUse hx now policy
  rw [hy] at hperform
  rw [(Standing.moves_of_next (Standing.next_of_after hy)).writes_iff]
  simp [Moment.stamps, Moment.changes, Moment.success?_of (Transition.isBetween_pair t),
    Service.Step.carryOut_transition, hperform, hsame, Except.toOption]

/-- The steps that write rows of a pair are those that stamp them. -/
theorem map_writing? (hs : s.Coherent) (policy : Policy) (now : Instant) (step : Service.Step)
    (p : DirectedPair) :
    (step.writing? policy p now s).map Prod.fst =
      if (Moment.of policy now s step).stamps p then some now else none := by
  cases hon : step.isOn p with
  | false => simp [Service.Step.writing?_of_not_isOn hon, stamps_of_not_isOn hon]
  | true =>
    obtain ⟨t, rfl, ht⟩ := Service.Step.isOn_iff.1 hon
    obtain ⟨x, hx⟩ := hs.exists_stands t.pair
    rw [Moment.stamps_pair ht]
    simp only [Service.Step.writing?, Store.mutatePair_of_stands hs.inUse hx, ht, true_and]
    cases hy : x.after policy s.isLive t with
    | error e => simp [stamps_of_error hs hx hy]
    | ok y =>
      simp only [stamps_iff_writes hs hx hy]
      by_cases hwrites : x.writes t y = [] <;> simp [hwrites]

theorem map_fst_writings (hs : s.Coherent) (policy : Policy) (history : History)
    (p : DirectedPair) :
    (history.writings policy s p).map Prod.fst =
      ((history.moments policy s).filter (Moment.stamps p)).map Moment.now := by
  rw [writings, List.map_filterMap, ← List.filterMap_eq_filter, List.map_filterMap]
  refine List.filterMap_congr fun m hm => ?_
  obtain ⟨hbefore, hof⟩ := hs.of_mem_moments hm
  rw [map_writing? hbefore policy m.now m.step p, ← hof]
  cases hstamps : m.stamps p <;> simp [Option.guard, hstamps]

/-- A step that changes no status of a pair leaves a row of it as it is, or leaves it with the
time of the step. -/
theorem get?_of_unchanged (hs : s.Coherent)
    (hsame : (Moment.of policy now s step).changes p = false) :
    (step.carryOut policy now s).2.rows.get? p =
      if (Moment.of policy now s step).stamps p then
        (s.rows.get? p).map fun row => { row with since := now }
      else s.rows.get? p := by
  cases hon : step.isOn p with
  | false =>
    rw [stamps_of_not_isOn hon]
    exact Service.Step.get?_carryOut hon policy now s
  | true =>
    obtain ⟨t, rfl, ht⟩ := Service.Step.isOn_iff.1 hon
    obtain ⟨x, hx⟩ := hs.exists_stands t.pair
    have hperform := Service.perform_of_stands hs.inUse hx now policy
    rw [Moment.stamps_pair ht]
    cases hy : x.after policy s.isLive t with
    | error e =>
      rw [hy] at hperform
      simp [stamps_of_error hs hx hy, Service.Step.carryOut_transition, hperform]
    | ok y =>
      have hafter : (Service.Step.carryOut policy now s (.call (.transition t))).2 =
          s.writeAll now (x.writes t y) := by
        simp only [Service.Step.carryOut_transition, hperform, hy]
      by_cases hwrites : x.writes t y = []
      · rw [if_neg fun h => (stamps_iff_writes hs hx hy now).1 h hwrites, hafter, hwrites,
          Store.writeAll_nil]
      · rw [if_pos ((stamps_iff_writes hs hx hy now).2 hwrites)]
        refine Store.get?_eq_restamped ?_ fun row hrow => ?_
        · have hsnapshot : s.snapshot p =
              (Service.Step.carryOut policy now s (.call (.transition t))).2.snapshot p := by
            simpa [Moment.changes] using hsame
          exact (congrArg Snapshot.forward hsnapshot).symm
        · rw [hafter] at hrow
          exact Store.since_of_writeAll hx (Standing.next_of_after hy) hwrites ht hrow

/-! ## Histories -/

/-- After a history a row has the time of the last step that stamped its pair. -/
theorem lastTime?_stamps (policy : Policy) (history : History) {row : Row}
    (hrow : (history.store policy .empty).rows.get? p = some row) :
    lastTime? (Moment.stamps p) (history.moments policy .empty) = some row.since := by
  obtain ⟨t, hlast, -⟩ := history.dated_writings policy p p row (Or.inl rfl) hrow
  rw [lastTime?, ← List.getLast?_map, ← map_fst_writings .empty, List.getLast?_map, hlast]
  rfl

/-- An entry of a friend list tells the time of the last step that changed a status of its pair, or
that was a block or an unblocking between its two accounts and succeeded. A step that changes no
status of a pair leaves its rows with their times, unless it is such a block or unblocking: then
they get the time of the step. -/
theorem listed_times (policy : Policy) (history : History) :
    (∀ now owner list,
      (Service.friends (.memory now) policy (history.store policy .empty) owner).1 = .ok list →
      ∀ e ∈ list, lastTime? (Moment.stamps ⟨owner, e.id⟩) (history.moments policy .empty) =
        some e.since) ∧
    ∀ m ∈ history.moments policy .empty, ∀ p, m.changes p = false →
      m.after.rows.get? p =
        if m.stamps p then (m.before.rows.get? p).map fun row => { row with since := m.now }
        else m.before.rows.get? p := by
  have hs : (history.store policy .empty).Coherent := Store.Coherent.empty.store policy history
  constructor
  · intro now owner list hfriends e he
    have hlist := Service.listVisible_of_friends hs hfriends
    obtain ⟨-, -, ⟨hrow, -⟩ | ⟨hrow, -⟩⟩ := hs.of_mem hlist he
    · exact lastTime?_stamps policy history hrow
    · -- A request is the row of the other account.
      have hlast := lastTime?_stamps policy history hrow
      have hreversed : Moment.stamps ⟨e.id, owner⟩ = Moment.stamps ⟨owner, e.id⟩ :=
        funext (Moment.stamps_reversed ⟨owner, e.id⟩)
      rwa [hreversed] at hlast
  · intro m hm p hsame
    obtain ⟨hbefore, hof⟩ := Store.Coherent.empty.of_mem_moments hm
    rw [hof] at hsame ⊢
    exact get?_of_unchanged hbefore hsame

end History

namespace Sample

/-- Alice blocks Bob. -/
def blocked : History := joining ++ [(.ofSecond 2, .call (.transition ⟨.blockFriend, alice, bob⟩))]

/-- Alice blocks Bob once more. -/
def blockedTwice : History :=
  blocked ++ [(.ofSecond 3, .call (.transition ⟨.blockFriend, alice, bob⟩))]

end Sample

namespace History

theorem friends_blockedTwice :
    (Service.friends (.memory (.ofSecond 4)) {} (Sample.blockedTwice.store {} .empty)
      Sample.alice).1 = .ok [⟨Sample.bob, "bob", 2, .blocked, .ofSecond 3⟩] := by
  have hlist : (Sample.blockedTwice.store {} .empty).listVisible Sample.alice =
      .ok [⟨Sample.bob, "bob", 2, .blocked, .ofSecond 3⟩] := by
    have hinUse : (Sample.blockedTwice.store {} .empty).poisoned = false := by decide +kernel
    have hlive : (Sample.blockedTwice.store {} .empty).isLive Sample.alice = true := by
      decide +kernel
    have hentries : (Sample.blockedTwice.store {} .empty).entries Sample.alice =
        [⟨Sample.bob, "bob", 2, .blocked, .ofSecond 3⟩] := by decide +kernel
    simp only [Store.listVisible, hinUse, hlive, hentries, List.mergeSort_singleton,
      Bool.false_eq_true, if_false, if_true]
  rw [Service.friends_memory rfl hlist]
  rfl

/-- The second block changes nothing, but the list tells its time. -/
theorem listed_times_blockedTwice :
    let m := Moment.of {} (.ofSecond 3) (Sample.blocked.store {} .empty)
      (.call (.transition ⟨.blockFriend, Sample.alice, Sample.bob⟩))
    lastTime? (Moment.stamps ⟨Sample.alice, Sample.bob⟩)
        (Sample.blockedTwice.moments {} .empty) = some (.ofSecond 3) ∧
      m ∈ Sample.blockedTwice.moments {} .empty ∧
      m.changes ⟨Sample.alice, Sample.bob⟩ = false ∧
      m.after.rows.get? ⟨Sample.alice, Sample.bob⟩ = some ⟨.blocked, .ofSecond 3⟩ := by
  intro m
  have hm : m ∈ Sample.blockedTwice.moments {} .empty :=
    mem_moments {} .empty Sample.blocked (.ofSecond 3) _ []
  have hsame : m.changes ⟨Sample.alice, Sample.bob⟩ = false := by decide +kernel
  have hstamps : m.stamps ⟨Sample.alice, Sample.bob⟩ = true := by decide +kernel
  have hbefore : m.before.rows.get? ⟨Sample.alice, Sample.bob⟩ =
      some ⟨.blocked, .ofSecond 2⟩ := by decide +kernel
  obtain ⟨htimes, hunchanged⟩ := listed_times {} Sample.blockedTwice
  refine ⟨htimes _ _ _ friends_blockedTwice _ (List.mem_singleton_self _), hm, hsame, ?_⟩
  rw [hunchanged m hm _ hsame, if_pos hstamps, hbefore]
  rfl

/-- The time that a list tells need not be that of the last change of a status, and a transition
that succeeds and leaves both statuses as they were can move it. -/
theorem since_not_of_last_change :
    (∃ list, (Service.friends (.memory (.ofSecond 4)) {} (Sample.blockedTwice.store {} .empty)
        Sample.alice).1 = .ok list ∧
      ∃ e ∈ list, e.since = .ofSecond 3 ∧
        lastTime? (Moment.changes ⟨Sample.alice, e.id⟩) (Sample.blockedTwice.moments {} .empty) =
          some (.ofSecond 2)) ∧
    ∃ m ∈ Sample.blockedTwice.moments {} .empty,
      m.success? ⟨Sample.alice, Sample.bob⟩ = some ⟨.blockFriend, Sample.alice, Sample.bob⟩ ∧
      m.changes ⟨Sample.alice, Sample.bob⟩ = false ∧
      m.before.rows.get? ⟨Sample.alice, Sample.bob⟩ = some ⟨.blocked, .ofSecond 2⟩ ∧
      m.after.rows.get? ⟨Sample.alice, Sample.bob⟩ = some ⟨.blocked, .ofSecond 3⟩ := by
  constructor
  · exact ⟨_, friends_blockedTwice, _, List.mem_singleton_self _, rfl, by decide +kernel⟩
  · exact ⟨_, mem_moments {} .empty Sample.blocked (.ofSecond 3) _ [], by decide +kernel,
      by decide +kernel, by decide +kernel, by decide +kernel⟩

end History
end Friendship
