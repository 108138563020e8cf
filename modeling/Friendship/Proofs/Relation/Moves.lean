import Friendship.Proofs.Relation.Plans

/-!
# What an action makes of a standing

`Moves` lists what each action makes of each standing where it is not refused, and
`next_eq_ok_iff` that nothing is missing from the list. Some actions are tolerated and do nothing;
every other one writes rows and leads to the same standing from wherever it starts:
`Moves.writes_cases`.
-/
namespace Friendship

/-- The action writes both rows of a pair whatever statuses they have. -/
def Action.overwrites : Action → Bool
  | blockFriend | unblockFriend => true
  | addFriend | acceptFriend | rejectFriend | removeFriend => false

namespace Standing

/-- An action is taken and leads from one standing to another. -/
inductive Moves (policy : Policy) : Action → Standing → Standing → Prop
  | ask : Moves policy .addFriend .strangers .asking
  | askAgain {x : Standing} (h : x ≠ .strangers) : Moves policy .addFriend x x
  | accept : Moves policy .acceptFriend .asking .friends
  | acceptNothing {x : Standing} (h : x ≠ .asking)
    (tolerated : policy.strictAccept = false) :
    Moves policy .acceptFriend x x
  | reject : Moves policy .rejectFriend .asking .strangers
  | remove {x : Standing} (h : x ≠ .strangers) : Moves policy .removeFriend x .strangers
  | block {x : Standing} : Moves policy .blockFriend x .blocked
  | unblock {x : Standing} (h : x ≠ .strangers)
    (tolerated : policy.strictUnblock = true → x = .blocked) :
    Moves policy .unblockFriend x .friends

variable {policy : Policy} {t : Transition} {x y : Standing}

theorem moves_of_next (h : x.next policy t = .ok y) : Moves policy t.action x y := by
  obtain ⟨action, actor, other⟩ := t
  cases action with
  | addFriend =>
    by_cases hx : x = .strangers
    · obtain rfl : asking = y := by simpa [next, hx] using h
      exact hx ▸ .ask
    · obtain rfl : x = y := by simpa [next, hx] using h
      exact .askAgain hx
  | acceptFriend =>
    by_cases hx : x = .asking
    · obtain rfl : friends = y := by simpa [next, hx] using h
      exact hx ▸ .accept
    · cases hstrict : policy.strictAccept with
      | true => simp [next, hx, hstrict] at h
      | false =>
        obtain rfl : x = y := by simpa [next, hx, hstrict] using h
        exact .acceptNothing hx hstrict
  | rejectFriend =>
    by_cases hx : x = .asking
    · obtain rfl : strangers = y := by simpa [next, hx] using h
      exact hx ▸ .reject
    · simp [next, hx] at h
  | removeFriend =>
    by_cases hx : x = .strangers
    · simp [next, hx] at h
    · obtain rfl : strangers = y := by simpa [next, hx] using h
      exact .remove hx
  | blockFriend =>
    obtain rfl : blocked = y := by simpa [next] using h
    exact .block
  | unblockFriend =>
    by_cases hx : x = .strangers
    · simp [next, hx] at h
    · by_cases hstrict : policy.strictUnblock = true ∧ x ≠ .blocked
      · simp [next, hx, hstrict] at h
      · obtain rfl : friends = y := by simpa [next, hx, hstrict] using h
        exact .unblock hx fun hs => Decidable.byContradiction fun hne => hstrict ⟨hs, hne⟩

theorem next_of_moves (h : Moves policy t.action x y) : x.next policy t = .ok y := by
  obtain ⟨action, actor, other⟩ := t
  cases h with
  | ask => rfl
  | askAgain hx => simp [next, hx]
  | accept => rfl
  | acceptNothing hx tolerated => simp [next, hx, tolerated]
  | reject => rfl
  | remove hx => simp [next, hx]
  | block => rfl
  | unblock hx tolerated =>
    cases hs : policy.strictUnblock with
    | true => simp [next, tolerated hs]
    | false => simp [next, hx, hs]

theorem next_eq_ok_iff : x.next policy t = .ok y ↔ Moves policy t.action x y :=
  ⟨moves_of_next, next_of_moves⟩

/-- The standing that an action leads to if it writes any rows. -/
def left : Action → Standing
  | .addFriend => asking
  | .acceptFriend | .unblockFriend => friends
  | .rejectFriend | .removeFriend => strangers
  | .blockFriend => blocked

theorem left_eq_asking_iff {action : Action} : left action = asking ↔ action = .addFriend := by
  cases action <;> decide

theorem left_ne_asked (action : Action) : left action ≠ asked := by
  cases action <;> decide

/-- An action that is taken either does nothing or writes rows, and then leads to its standing. -/
theorem Moves.writes_cases (h : Moves policy t.action x y) :
    (y = x ∧ x.writes t y = []) ∨ (y = left t.action ∧ x.writes t y ≠ []) := by
  obtain ⟨action, actor, other⟩ := t
  cases h with
  | ask => exact Or.inr ⟨rfl, by simp [writes, renews, puts, snapshot]⟩
  | askAgain hx => exact Or.inl ⟨rfl, by simp [writes, renews, hx]⟩
  | accept => exact Or.inr ⟨rfl, by simp [writes, renews, puts, snapshot]⟩
  | acceptNothing hx _ => exact Or.inl ⟨rfl, by simp [writes, renews, hx]⟩
  | reject =>
    exact Or.inr ⟨rfl, by simp [writes, renews, Transition.clearing, snapshot]⟩
  | remove hx =>
    refine Or.inr ⟨rfl, ?_⟩
    cases x <;> simp_all [writes, renews, Transition.clearing, snapshot]
  | block => exact Or.inr ⟨rfl, by simp [writes, renews, puts, snapshot]⟩
  | unblock hx _ => exact Or.inr ⟨rfl, by simp [writes, renews, hx, puts, snapshot]⟩

/-- Only a request can be answered. -/
theorem Moves.asking_of_answer (h : Moves policy t.action x y) (hwrites : x.writes t y ≠ [])
    (hanswer : t.action = .acceptFriend ∨ t.action = .rejectFriend) : x = asking := by
  obtain ⟨action, actor, other⟩ := t
  cases h with
  | accept => rfl
  | reject => rfl
  | acceptNothing hx _ => simp [writes, renews, hx] at hwrites
  | ask | askAgain | remove | block | unblock => simp at hanswer

/-- An action that is taken writes rows if it leads elsewhere or is one that writes whatever is
there. -/
theorem Moves.writes_iff (h : Moves policy t.action x y) :
    x.writes t y ≠ [] ↔ x ≠ y ∨ t.action.overwrites = true := by
  obtain ⟨action, actor, other⟩ := t
  cases h with
  | ask => simp [writes, renews, puts, snapshot]
  | askAgain hx => simp [Action.overwrites, writes, renews, hx]
  | accept => simp [writes, renews, puts, snapshot]
  | acceptNothing hx _ => simp [Action.overwrites, writes, renews, hx]
  | reject => simp [writes, renews, Transition.clearing, snapshot]
  | remove hx => cases x <;> simp_all [writes, renews, Transition.clearing, snapshot]
  | block => simp [Action.overwrites, writes, renews, puts, snapshot]
  | unblock hx _ => simp [Action.overwrites, writes, renews, hx, puts, snapshot]

/-- Only a rejection and a removal take a row away. -/
theorem Moves.deletes (h : Moves policy t.action x y)
    (hgone : (x.snapshot.forward.isSome = true ∧ y.snapshot.forward = none) ∨
      (x.snapshot.backward.isSome = true ∧ y.snapshot.backward = none)) :
    t.action = .removeFriend ∨ t.action = .rejectFriend := by
  obtain ⟨action, actor, other⟩ := t
  cases h with
  | reject => exact Or.inr rfl
  | remove _ => exact Or.inl rfl
  | ask | accept | block | unblock => simp [snapshot] at hgone
  | askAgain _ | acceptNothing _ _ =>
    -- What stays as it is keeps its rows.
    rcases hgone with ⟨hsome, hnone⟩ | ⟨hsome, hnone⟩ <;> simp [hnone] at hsome

/-- No row is written twice. -/
theorem nodup_row_writes (h : t.actor ≠ t.other) (x y : Standing) :
    ((x.writes t y).map Write.row).Nodup := by
  have hne := DirectedPair.ne_reversed (Transition.first_ne_second_pair.2 h)
  unfold writes
  split
  · cases y <;> simp [puts, snapshot, Write.row, hne]
  · split
    · exact List.nodup_nil
    · cases x <;> simp [Transition.clearing, snapshot, Write.row, hne]

/-- What is written is a row that is put or one that is there. -/
theorem mem_writes {w : Write} (h : w ∈ x.writes t y) :
    w.isPut = true ∨ (w.row = t.pair ∧ x.snapshot.forward.isSome) ∨
      (w.row = t.pair.reversed ∧ x.snapshot.backward.isSome) := by
  unfold writes at h
  split at h
  · left
    simp only [puts, List.mem_append, Option.mem_toList, Option.map_eq_some_iff] at h
    obtain ⟨_, -, rfl⟩ | ⟨_, -, rfl⟩ := h <;> rfl
  · split at h
    · cases h
    · right
      simp only [Transition.clearing, List.mem_append] at h
      rcases h with h | h <;> split at h <;> simp_all [Write.row]

/-- A transition that writes anything writes each row of its pair that is there. -/
theorem exists_write_of_row (hxy : x.next policy t = .ok y) (hwrites : x.writes t y ≠ []) :
    (x.snapshot.forward.isSome → ∃ w ∈ x.writes t y, w.row = t.pair) ∧
      (x.snapshot.backward.isSome → ∃ w ∈ x.writes t y, w.row = t.pair.reversed) := by
  cases hnew : renews t.action x with
  | true =>
    rcases next_of_renews hnew hxy with ⟨rfl, rfl⟩ | rfl | rfl
    · simp [snapshot]
    · simp [writes, hnew, puts, snapshot, Write.row]
    · simp [writes, hnew, puts, snapshot, Write.row]
  | false =>
    have hyx : y ≠ x := fun hyx => hwrites (by simp [writes, hnew, hyx])
    cases x <;> simp [writes, hnew, hyx, Transition.clearing, snapshot, Write.row]

end Standing
end Friendship
