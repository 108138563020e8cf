import Friendship.Database.Script
import Friendship.Proofs.Database.Listing
import Friendship.Proofs.Database.Protocol
import Friendship.Proofs.Relation.Plans
import Friendship.Proofs.Service.Course

/-!
# What is read back from a server

A status is read from its own text and from no other one (`readStatus_eq_ok_iff`). The rows of a
pair that come once each show exactly what they tell (`snapshotOf_of_ofPair`), and a planner is
asked with that or not at all (`run_mutatePair_congr`). A friend list is read row by row, or the
first row that cannot be read is what failed (`exists_of_readFriends_eq_error`). Main statement:
`rows_read_back`.
-/
namespace Friendship

/-- No two statuses have one text. -/
theorem Status.text_inj {a b : Status} : a.text = b.text ↔ a = b := by
  rw [← Status.ofText?_eq_some_iff, Status.ofText?_text, Option.some.injEq]

namespace Database

section Statuses

variable {text : String} {status : Status} {e : RelationError}

theorem readStatus_eq_ok_iff : readStatus text = .ok status ↔ text = status.text := by
  unfold readStatus
  rw [← Status.ofText?_eq_some_iff]
  cases Status.ofText? text <;> simp

theorem readStatus_eq_error_iff :
    readStatus text = .error e ↔
      Status.ofText? text = none ∧ e = .internal (.unknownStatus text) := by
  unfold readStatus
  cases Status.ofText? text <;> simp [eq_comm]

theorem message_unknownStatus (text : String) :
    (RelationError.internal (.unknownStatus text)).message =
      "internal error: unknown relation status: " ++ text := by
  have hlead : "internal error: " ++ "unknown relation status: " =
      "internal error: unknown relation status: " := by cbv
  calc
    (RelationError.internal (.unknownStatus text)).message =
        "internal error: " ++ ("unknown relation status: " ++ text) := rfl
    _ = ("internal error: " ++ "unknown relation status: ") ++ text := String.append_assoc.symm
    _ = "internal error: unknown relation status: " ++ text := congrArg (· ++ text) hlead

end Statuses

section Rows

variable {p : DirectedPair} {rows : List (DirectedPair × String)} {seen : Snapshot}

/-- Rows of a pair, one for each direction at most. -/
structure OfPair (p : DirectedPair) (rows : List (DirectedPair × String)) : Prop where
  once : (rows.map Prod.fst).Nodup
  directions : ∀ row ∈ rows, row.1 = p ∨ row.1 = p.reversed

/-- Rows tell of the two statuses of a pair by their texts. -/
structure Tell (p : DirectedPair) (rows : List (DirectedPair × String)) (seen : Snapshot) :
    Prop where
  forward : ∀ status, seen.forward = some status ↔ (p, status.text) ∈ rows
  backward : ∀ status, seen.backward = some status ↔ (p.reversed, status.text) ∈ rows

/-- Rows tell of the same in any order. -/
theorem Tell.unique {rows' : List (DirectedPair × String)} {seen' : Snapshot}
    (h : Tell p rows seen) (hrows : rows.Perm rows') (h' : Tell p rows' seen') : seen = seen' := by
  have hforward : seen.forward = seen'.forward :=
    Option.ext fun status => by rw [h.forward, h'.forward, hrows.mem_iff]
  have hbackward : seen.backward = seen'.backward :=
    Option.ext fun status => by rw [h.backward, h'.backward, hrows.mem_iff]
  cases seen
  cases seen'
  exact Snapshot.mk.injEq .. ▸ ⟨hforward, hbackward⟩

/-- There are at most two rows of a pair, and two of them in one of two orders. -/
theorem OfPair.cases (h : OfPair p rows) :
    rows = [] ∨ (∃ text, rows = [(p, text)]) ∨ (∃ text, rows = [(p.reversed, text)]) ∨
      ∃ text text', rows = [(p, text), (p.reversed, text')] ∨
        rows = [(p.reversed, text'), (p, text)] := by
  obtain ⟨once, directions⟩ := h
  match rows with
  | [] => exact .inl rfl
  | [(q, text)] =>
    rcases directions _ List.mem_cons_self with rfl | rfl
    · exact .inr (.inl ⟨text, rfl⟩)
    · exact .inr (.inr (.inl ⟨text, rfl⟩))
  | [(q, text), (q', text')] =>
    have hne : q ≠ q' := by simpa using once
    rcases directions (q, text) (by simp) with rfl | rfl <;>
      rcases directions (q', text') (by simp) with rfl | rfl
    · exact absurd rfl hne
    · exact .inr (.inr (.inr ⟨text, text', .inl rfl⟩))
    · exact .inr (.inr (.inr ⟨text', text, .inr rfl⟩))
    · exact absurd rfl hne
  | (q, text) :: (q', text') :: (q'', text'') :: rest =>
    -- Of three rows two would have the same direction.
    simp only [List.map_cons, List.nodup_cons, List.mem_cons, not_or] at once
    obtain ⟨⟨hne, hne', -⟩, ⟨hne'', -⟩, -⟩ := once
    rcases directions (q, text) (by simp) with rfl | rfl <;>
      rcases directions (q', text') (by simp) with rfl | rfl <;>
      rcases directions (q'', text'') (by simp) with rfl | rfl <;> contradiction

/-- Rows of a pair that can be read show what they tell. -/
theorem snapshotOf_of_ofPair (hp : p.first ≠ p.second) (h : OfPair p rows)
    (hknown : ∀ row ∈ rows, (Status.ofText? row.2).isSome = true) :
    ∃ seen, snapshotOf p rows = .ok seen ∧ Tell p rows seen := by
  have hne : p.reversed ≠ p := DirectedPair.reversed_ne hp
  have hstatus : ∀ row ∈ rows, ∃ status : Status, row.2 = status.text := by
    intro row hrow
    obtain ⟨status, htext⟩ := Option.isSome_iff_exists.1 (hknown row hrow)
    exact ⟨status, Status.ofText?_eq_some_iff.1 htext⟩
  have hread : ∀ status : Status, readStatus status.text = .ok status := fun status =>
    readStatus_eq_ok_iff.2 rfl
  rcases h.cases with rfl | ⟨text, rfl⟩ | ⟨text, rfl⟩ | ⟨text, text', rfl | rfl⟩
  · exact ⟨{}, rfl, by simp, by simp⟩
  · obtain ⟨status, rfl⟩ := hstatus (p, text) (by simp)
    refine ⟨⟨some status, none⟩, ?_, ?_, ?_⟩
    · simp [snapshotOf, hread, bind, Except.bind, pure, Except.pure]
    · simp [Status.text_inj, eq_comm]
    · simp [hne]
  · obtain ⟨status, rfl⟩ := hstatus (p.reversed, text) (by simp)
    refine ⟨⟨none, some status⟩, ?_, ?_, ?_⟩
    · simp [snapshotOf, hread, hne, bind, Except.bind, pure, Except.pure]
    · simp [hne.symm]
    · simp [Status.text_inj, eq_comm]
  all_goals
    obtain ⟨status, rfl⟩ := hstatus (p, text) (by simp)
    obtain ⟨status', rfl⟩ := hstatus (p.reversed, text') (by simp)
    refine ⟨⟨some status, some status'⟩, ?_, ?_, ?_⟩
    · simp [snapshotOf, hread, hne, bind, Except.bind, pure, Except.pure]
    · simp [Status.text_inj, hne.symm, eq_comm]
    · simp [Status.text_inj, hne.symm, eq_comm]

/-- Where rows cannot be read, one of them has a status that is none. -/
theorem exists_of_snapshotOf_eq_error {e : RelationError} (h : snapshotOf p rows = .error e) :
    ∃ row ∈ rows, Status.ofText? row.2 = none ∧ e = .internal (.unknownStatus row.2) := by
  unfold snapshotOf at h
  generalize ({} : Snapshot) = start at h
  induction rows generalizing start with
  | nil => cases h
  | cons row rows ih =>
    rw [List.foldlM_cons] at h
    cases hrow : readStatus row.2 with
    | error e' =>
      obtain ⟨hnone, rfl⟩ := readStatus_eq_error_iff.1 hrow
      simp only [hrow, bind, Except.bind, Except.error.injEq] at h
      exact ⟨row, List.mem_cons_self, hnone, h.symm⟩
    | ok status =>
      simp only [hrow, bind, Except.bind, pure, Except.pure] at h
      obtain ⟨row', hrow', hnone⟩ := ih _ h
      exact ⟨row', List.mem_cons_of_mem _ hrow', hnone⟩

end Rows

section Planners

variable {σ α β : Type} {server : Server σ} {s : σ} {p : DirectedPair} {planner planner' : Planner}

theorem Dialogue.result_bind (d : Dialogue α) (f : α → Dialogue β) :
    ((d >>= f).run server s).result =
      ((f (d.run server s).result).run server (d.run server s).server).result := by
  rw [run_bind]

/-- Dialogues that go on alike from where they have come to are alike. -/
theorem Dialogue.run_bind_congr {d : Dialogue α} {f g : α → Dialogue β}
    (h : (f (d.run server s).result).run server (d.run server s).server =
      (g (d.run server s).result).run server (d.run server s).server) :
    (d >>= f).run server s = (d >>= g).run server s := by
  rw [run_bind, run_bind]
  simp only [h]

/-- What comes of a planner's answer is told with what the planner was shown. -/
theorem seen_carryOut (seen : Snapshot) (answer : Except RelationError (List Write)) :
    ((do
      match ← (carryOut p answer).run with
      | .error e => abandon (some seen) e
      | .ok n => pure ⟨some seen, .ok n⟩ : Dialogue Attempt).run server s).result.seen =
      some seen := by
  rw [Dialogue.result_bind]
  cases ((carryOut p answer).run.run server s).result with
  | error e => rfl
  | ok n => rfl

/-- A planner is asked with what it is shown and with nothing else: one that answers the same to
that leads to the same. -/
theorem run_mutatePair_congr
    (h : ∀ seen, ((mutatePair p planner).run server s).result.seen = some seen →
      planner' seen = planner seen) :
    (mutatePair p planner').run server s = (mutatePair p planner).run server s := by
  unfold mutatePair at h ⊢
  refine Dialogue.run_bind_congr ?_
  rw [Dialogue.result_bind] at h
  cases hbegun : ((request .start .start).run.run server s).result with
  | error e => rfl
  | ok answer =>
    simp only [hbegun] at h ⊢
    refine Dialogue.run_bind_congr ?_
    rw [Dialogue.result_bind] at h
    generalize (request .start .start).run.run server s = first at h ⊢
    cases hshown : ((lockPair p).run.run server first.server).result with
    | error e => rfl
    | ok seen =>
      simp only [hshown] at h ⊢
      rw [h seen (seen_carryOut seen (planner seen))]

end Planners

section Lists

variable {rows : List FriendRow} {list : List Friend}

theorem readFriend_eq_ok_iff {row : FriendRow} {entry : Friend} :
    readFriend row = .ok entry ↔ FriendRow.ofFriend entry = row := by
  constructor
  · intro h
    unfold readFriend at h
    cases hstatus : readStatus row.status with
    | error e => simp [hstatus, bind, Except.bind] at h
    | ok status =>
      simp only [hstatus, bind, Except.bind, pure, Except.pure, Except.ok.injEq] at h
      subst h
      simp [FriendRow.ofFriend, ← readStatus_eq_ok_iff.1 hstatus]
  · rintro rfl
    exact readFriend_ofFriend entry

theorem readFriend_eq_error_iff {row : FriendRow} {e : RelationError} :
    readFriend row = .error e ↔
      Status.ofText? row.status = none ∧ e = .internal (.unknownStatus row.status) := by
  rw [← readStatus_eq_error_iff]
  unfold readFriend
  cases readStatus row.status <;> simp [bind, Except.bind, pure, Except.pure]

/-- The entries that are read are those that the rows stand for, one for each row. -/
theorem eq_of_readFriends_eq_ok (h : readFriends rows = .ok list) :
    list.map FriendRow.ofFriend = rows := by
  unfold readFriends at h
  induction rows generalizing list with
  | nil =>
    cases h
    rfl
  | cons row rows ih =>
    rw [List.mapM_cons] at h
    cases hrow : readFriend row with
    | error e => simp [hrow, bind, Except.bind] at h
    | ok entry =>
      cases hrest : rows.mapM readFriend with
      | error e => simp [hrow, hrest, bind, Except.bind] at h
      | ok rest =>
        simp only [hrow, hrest, bind, Except.bind, pure, Except.pure, Except.ok.injEq] at h
        subst h
        rw [List.map_cons, readFriend_eq_ok_iff.1 hrow, ih hrest]

/-- What fails is the first row that cannot be read. -/
theorem exists_of_readFriends_eq_error {e : RelationError} (h : readFriends rows = .error e) :
    ∃ before row after, rows = before ++ row :: after ∧
      (∀ r ∈ before, (Status.ofText? r.status).isSome = true) ∧
      Status.ofText? row.status = none ∧ e = .internal (.unknownStatus row.status) := by
  unfold readFriends at h
  induction rows with
  | nil => cases h
  | cons row rows ih =>
    rw [List.mapM_cons] at h
    cases hrow : readFriend row with
    | error e' =>
      simp only [hrow, bind, Except.bind, Except.error.injEq] at h
      subst h
      exact ⟨[], row, rows, rfl, by simp, readFriend_eq_error_iff.1 hrow⟩
    | ok entry =>
      cases hrest : rows.mapM readFriend with
      | ok rest => simp [hrow, hrest, bind, Except.bind, pure, Except.pure] at h
      | error e' =>
        simp only [hrow, hrest, bind, Except.bind, Except.error.injEq] at h
        subst h
        obtain ⟨before, row', after, rfl, hbefore, hrow'⟩ := ih hrest
        have hknown : (Status.ofText? row.status).isSome = true := by
          rw [← readFriend_eq_ok_iff.1 hrow]
          simp [FriendRow.ofFriend]
        exact ⟨row :: before, row', after, rfl, List.forall_mem_cons.2 ⟨hknown, hbefore⟩, hrow'⟩

end Lists

section Told

variable {p : DirectedPair} {planner : Planner} {rows : List (DirectedPair × String)}

/-- Once rows are locked, no other rows are. -/
theorem CarriedOut.not_locked {answer : Except RelationError (List Write)} {held : List Exchange}
    {b : Except RelationError Nat} (h : CarriedOut p answer held b) : locked p rows ∉ held := by
  intro hlocked
  have hasked : .lockPair p ∈ held.map Exchange.statement := List.mem_map_of_mem hlocked
  exact lockPair_not_mem_tasks _ (h.inOrder.subset hasked)

theorem locked_not_mem_rolledBack (reply : Except QueryError Unit) :
    locked p rows ∉ rolledBack reply := by
  intro h
  cases List.mem_singleton.1 h

/-- Locked rows are shown to the planner, or they cannot be read and nothing is written. -/
theorem Transaction.of_locked {sent closing : List Exchange} {attempt : Attempt}
    (h : Transaction p planner sent closing attempt) (hlocked : locked p rows ∈ sent ++ closing) :
    (∃ seen, snapshotOf p rows = .ok seen ∧ attempt.seen = some seen) ∨
    ∃ e, snapshotOf p rows = .error e ∧ attempt = ⟨none, .error e⟩ ∧
      writesIn (sent ++ closing) = [] := by
  have hsame : ∀ {rows' held}, locked p rows ∉ held →
      locked p rows ∈ begun :: locked p rows' :: held → rows' = rows := by
    intro rows' held hheld hmem
    simp only [List.mem_cons, hheld, or_false] at hmem
    rcases hmem with hmem | hmem
    · cases hmem
    · cases hmem
      rfl
  cases h with
  | notBegun e => simp [locked] at hlocked
  | notLocked e reply =>
    have hmem : locked p rows ∈ rolledBack reply := by simpa [locked, begun] using hlocked
    exact absurd hmem (locked_not_mem_rolledBack reply)
  | @unreadable rows' e hrows reply =>
    obtain rfl := hsame (locked_not_mem_rolledBack reply) hlocked
    exact .inr ⟨e, hrows, rfl, rfl⟩
  | @failed rows' seen held e hrows hheld reply =>
    have hnone : locked p rows ∉ held ++ rolledBack reply := by
      rw [List.mem_append, not_or]
      exact ⟨hheld.not_locked, locked_not_mem_rolledBack reply⟩
    obtain rfl := hsame hnone hlocked
    exact .inl ⟨seen, hrows, rfl⟩
  | @succeeded rows' seen held n hrows hheld =>
    rw [List.append_nil] at hlocked
    obtain rfl := hsame hheld.not_locked hlocked
    exact .inl ⟨seen, hrows, rfl⟩

variable {σ : Type} {server : Server σ} {s : σ}

/-- Where a server has told the rows of a pair, they are read as follows. If all their statuses are
known, the planner is asked with what they tell; else one of the unknown ones is what failed, no
planner is asked, and nothing is written. -/
theorem pair_read_back (hp : p.first ≠ p.second) (hrows : OfPair p rows)
    (hlocked : locked p rows ∈ ((mutatePair p planner).run server s).exchanges) :
    ((∀ row ∈ rows, (Status.ofText? row.2).isSome = true) ∧ ∃ seen, Tell p rows seen ∧
      ((mutatePair p planner).run server s).result.seen = some seen) ∨
    ∃ row ∈ rows, Status.ofText? row.2 = none ∧
      ((mutatePair p planner).run server s).result =
        ⟨none, .error (.internal (.unknownStatus row.2))⟩ ∧
      writesIn ((mutatePair p planner).run server s).exchanges = [] := by
  obtain ⟨sent, closing, hexchanges, h⟩ :=
    transaction_of_course (Dialogue.course_run server (mutatePair p planner) s)
  rw [hexchanges] at hlocked ⊢
  rcases h.of_locked hlocked with ⟨seen, hread, hseen⟩ | ⟨e, hread, hattempt, hwrites⟩
  · have hknown := snapshotOf_eq_ok_iff.1 ⟨seen, hread⟩
    obtain ⟨seen', hread', htell⟩ := snapshotOf_of_ofPair hp hrows hknown
    obtain rfl := Except.ok.inj (hread.symm.trans hread')
    exact .inl ⟨hknown, seen, htell, hseen⟩
  · obtain ⟨row, hrow, hnone, rfl⟩ := exists_of_snapshotOf_eq_error hread
    exact .inr ⟨row, hrow, hnone, hattempt, hwrites⟩

/-- Where a server has told the rows of a friend list, they are read one for one, or the first whose
status is unknown is what failed. -/
theorem list_read_back {owner : AccountId} {rows : List FriendRow}
    (hlisted : (⟨.list owner, .ok rows⟩ : Exchange) ∈
      ((listVisible owner).run.run server s).exchanges) :
    (∃ list, ((listVisible owner).run.run server s).result = .ok list ∧
      list.map FriendRow.ofFriend = rows) ∨
    ∃ before row after, rows = before ++ row :: after ∧
      (∀ r ∈ before, (Status.ofText? r.status).isSome = true) ∧
      Status.ofText? row.status = none ∧
      ((listVisible owner).run.run server s).result =
        .error (.internal (.unknownStatus row.status)) := by
  rcases course_listVisible (Dialogue.course_run server (listVisible owner).run s) with
    ⟨e, hheld, -⟩ | ⟨rows', hheld, hresult⟩
  · rw [hheld] at hlisted
    cases List.mem_singleton.1 hlisted
  · rw [hheld] at hlisted
    cases List.mem_singleton.1 hlisted
    cases hread : readFriends rows with
    | ok list => exact .inl ⟨list, hresult.trans hread, eq_of_readFriends_eq_ok hread⟩
    | error e =>
      obtain ⟨before, row, after, heq, hbefore, hnone, rfl⟩ := exists_of_readFriends_eq_error hread
      exact .inr ⟨before, row, after, heq, hbefore, hnone, hresult.trans hread⟩

end Told

/-- A planner was asked with what it was shown, if anything, and with nothing else: who answers the
same to that leads to the same. -/
def AskedWith {σ : Type} (server : Server σ) (s : σ) (p : DirectedPair) (planner : Planner)
    (seen? : Option Snapshot) : Prop :=
  ((mutatePair p planner).run server s).result.seen = seen? ∧
    ∀ planner' : Planner, (∀ seen ∈ seen?, planner' seen = planner seen) →
      (mutatePair p planner').run server s = (mutatePair p planner).run server s

theorem askedWith {σ : Type} (server : Server σ) (s : σ) (p : DirectedPair) (planner : Planner) :
    AskedWith server s p planner ((mutatePair p planner).run server s).result.seen :=
  ⟨rfl, fun _ h => run_mutatePair_congr h⟩

/-- What a server tells is read back as it was written. Of the rows of a pair of two accounts, one
for each direction at most, all statuses are known and the planner is asked with what they tell,
which is the same in either order; or one is unknown, and that is what failed, with no planner asked
and nothing written. The rows of a friend list are read one for one, or the first with an unknown
status is what failed. A status that is put is read from the text that is sent, and no other one
is. -/
theorem rows_read_back :
    (∀ {σ : Type} (server : Server σ) (s : σ) (p : DirectedPair) (planner : Planner)
      (rows : List (DirectedPair × String)), p.first ≠ p.second → OfPair p rows →
      locked p rows ∈ ((mutatePair p planner).run server s).exchanges →
      ((∀ row ∈ rows, (Status.ofText? row.2).isSome = true) ∧
        ∃ seen, Tell p rows seen ∧ AskedWith server s p planner (some seen)) ∨
      ∃ row ∈ rows, Status.ofText? row.2 = none ∧ AskedWith server s p planner none ∧
        ((mutatePair p planner).run server s).result.result =
          .error (.internal (.unknownStatus row.2)) ∧
        writesIn ((mutatePair p planner).run server s).exchanges = []) ∧
    (∀ (p : DirectedPair) (rows rows' : List (DirectedPair × String)) (seen seen' : Snapshot),
      rows.Perm rows' → Tell p rows seen → Tell p rows' seen' → seen = seen') ∧
    (∀ {σ : Type} (server : Server σ) (s : σ) (owner : AccountId) (rows : List FriendRow),
      (⟨.list owner, .ok rows⟩ : Exchange) ∈ ((listVisible owner).run.run server s).exchanges →
      (∃ list, ((listVisible owner).run.run server s).result = .ok list ∧
        list.map FriendRow.ofFriend = rows) ∨
      ∃ before row after, rows = before ++ row :: after ∧
        (∀ r ∈ before, (Status.ofText? r.status).isSome = true) ∧
        Status.ofText? row.status = none ∧
        ((listVisible owner).run.run server s).result =
          .error (.internal (.unknownStatus row.status))) ∧
    (∀ text, (RelationError.internal (.unknownStatus text)).message =
      "internal error: unknown relation status: " ++ text) ∧
    ∀ (row : DirectedPair) (status : Status), ∃ text,
      (Statement.put row status).parameters = [row.first.text, row.second.text, text, text] ∧
      ∀ status', readStatus text = .ok status' ↔ status' = status := by
  refine ⟨fun server s p planner rows hp hrows hlocked => ?_,
    fun p rows rows' seen seen' hperm h h' => h.unique hperm h',
    fun server s owner rows hlisted => list_read_back hlisted, message_unknownStatus,
    fun row status => ?_⟩
  · have hasked := askedWith server s p planner
    rcases pair_read_back hp hrows hlocked with ⟨hknown, seen, htell, hseen⟩ |
      ⟨row, hrow, hnone, hresult, hwrites⟩
    · exact .inl ⟨hknown, seen, htell, hseen ▸ hasked⟩
    · rw [hresult] at hasked ⊢
      exact .inr ⟨row, hrow, hnone, hasked, rfl, hwrites⟩
  · refine ⟨status.text, rfl, fun status' => ?_⟩
    rw [readStatus_eq_ok_iff, Status.text_inj, eq_comm]

end Database

namespace Sample

/-- A server that tells Bob's row before Alice's, and one friend with a status of its own. -/
def script : Database.Script where
  lockedRows := [(⟨bob, alice⟩, "blocked"), (⟨alice, bob⟩, "accepted")]
  friends := [⟨bob, "bob", 2, "muted", .ofSecond 0⟩]

end Sample

namespace Database

/-- Alice's row is the forward one though it comes last, and a list with a muted friend is not
read. -/
theorem rows_read_back_script :
    Sample.alice ≠ Sample.bob ∧
    OfPair ⟨Sample.alice, Sample.bob⟩ Sample.script.lockedRows ∧
    AskedWith Sample.script.server [] ⟨Sample.alice, Sample.bob⟩ (.fixed (.ok []))
      (some ⟨some .accepted, some .blocked⟩) ∧
    ((listVisible Sample.alice).run.run Sample.script.server []).result =
      .error (.internal (.unknownStatus "muted")) := by
  obtain ⟨hpair, hunique, hlist, -⟩ := rows_read_back
  have hne : Sample.alice ≠ Sample.bob := by decide
  have hrows : OfPair ⟨Sample.alice, Sample.bob⟩ Sample.script.lockedRows :=
    ⟨by decide, by decide⟩
  refine ⟨hne, hrows, ?_, ?_⟩
  · have hlocked : locked ⟨Sample.alice, Sample.bob⟩ Sample.script.lockedRows ∈
        ((mutatePair ⟨Sample.alice, Sample.bob⟩ (.fixed (.ok []))).run
          Sample.script.server []).exchanges :=
      List.mem_cons_of_mem _ List.mem_cons_self
    rcases hpair _ [] _ (.fixed (.ok [])) _ hne hrows hlocked with ⟨-, seen, htell, hasked⟩ |
      ⟨row, hrow, hnone, -⟩
    · have htold : Tell ⟨Sample.alice, Sample.bob⟩ Sample.script.lockedRows
          ⟨some .accepted, some .blocked⟩ :=
        ⟨fun status => by cases status <;> decide, fun status => by cases status <;> decide⟩
      rwa [hunique _ _ _ _ _ (.refl _) htold htell]
    · simp only [Sample.script, List.mem_cons, List.not_mem_nil, or_false] at hrow
      rcases hrow with rfl | rfl <;> cases hnone
  · have hlisted : (⟨.list Sample.alice, .ok Sample.script.friends⟩ : Exchange) ∈
        ((listVisible Sample.alice).run.run Sample.script.server []).exchanges :=
      List.mem_cons_self
    rcases hlist _ [] _ _ hlisted with ⟨list, -, hrows⟩ |
      ⟨before, row, after, hsplit, -, -, hfails⟩
    · have hnone : ∀ status : Status, status.text ≠ "muted" := by
        intro status
        cases status <;> decide
      cases list with
      | nil => cases hrows
      | cons entry rest =>
        exact absurd (congrArg FriendRow.status (List.cons.inj hrows).1) (hnone entry.status)
    · cases before with
      | nil =>
        obtain rfl := (List.cons.inj hsplit).1
        exact hfails
      | cons first rest =>
        have hlength := congrArg List.length hsplit
        simp [Sample.script] at hlength

end Database
end Friendship
