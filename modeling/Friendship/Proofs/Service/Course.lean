import Friendship.Proofs.Database.Course
import Friendship.Service.Relations

/-!
# The course of a call over a server

What a call says to a server is added to what was said before, and follows one of the courses of
its dialogue. A transition is one transaction: `transaction_perform`. A friend list is one query,
or two if it is empty and the policy asks whether its owner is there: `listed_friends`.
-/
namespace Friendship

namespace Database

variable {owner id : AccountId} {held : List Exchange}

theorem course_listVisible {b : Except RelationError (List Friend)}
    (h : (listVisible owner).run.Course held b) :
    (∃ e, held = [⟨.list owner, .error e⟩] ∧ b = .error (.internal (.query .listFriends e))) ∨
    ∃ rows, held = [⟨.list owner, .ok rows⟩] ∧ b = readFriends rows :=
  Request.course_reading (fun rows => by cases readFriends rows <;> rfl) h

/-- Whether a count tells of a live account; without a count there is no telling. -/
def readCount : Option Int → Except RelationError Bool
  | none => .error (.internal (.query .queryAccount .rowNotFound))
  | some n => .ok (0 < n)

theorem course_accountExists {b : Except RelationError Bool}
    (h : (accountExists id).run.Course held b) :
    (∃ e, held = [⟨.count id, .error e⟩] ∧ b = .error (.internal (.query .queryAccount e))) ∨
    ∃ n, held = [⟨.count id, .ok n⟩] ∧ b = readCount n :=
  Request.course_reading (fun n => by cases n <;> rfl) h

/-- A list of rows that can be read is empty only if there are no rows. -/
theorem eq_nil_of_readFriends {rows : List FriendRow} (h : readFriends rows = .ok []) :
    rows = [] := by
  cases rows with
  | nil => rfl
  | cons row rows =>
    simp only [readFriends, List.mapM_cons, bind, Except.bind] at h
    cases hrow : readFriend row with
    | error e => simp [hrow] at h
    | ok entry =>
      cases hrest : List.mapM readFriend rows with
      | error e => simp [hrow, hrest] at h
      | ok list => simp [hrow, hrest, pure, Except.pure] at h

/-- The courses of asking for a friend list: what is sent and answered, and what comes of it. -/
inductive Listed (policy : Policy) (owner : AccountId) :
    List Exchange → Except RelationError (List Friend) → Prop
  | notListed (e : QueryError) :
    Listed policy owner [⟨.list owner, .error e⟩] (.error (.internal (.query .listFriends e)))
  | unreadable {rows : List FriendRow} {e : RelationError} (hrows : readFriends rows = .error e) :
    Listed policy owner [⟨.list owner, .ok rows⟩] (.error e)
  | listed {rows : List FriendRow} {first : Friend} {rest : List Friend}
    (hrows : readFriends rows = .ok (first :: rest)) :
    Listed policy owner [⟨.list owner, .ok rows⟩] (.ok (first :: rest))
  | missing (hpolicy : policy.emptyListIsNotFound = true) :
    Listed policy owner [⟨.list owner, .ok []⟩] (.error (.friendsNotFound owner))
  | notCounted (hpolicy : policy.emptyListIsNotFound = false) (e : QueryError) :
    Listed policy owner [⟨.list owner, .ok []⟩, ⟨.count owner, .error e⟩]
      (.error (.internal (.query .queryAccount e)))
  | uncountable (hpolicy : policy.emptyListIsNotFound = false) {n : Option Int}
    {e : RelationError} (hcount : readCount n = .error e) :
    Listed policy owner [⟨.list owner, .ok []⟩, ⟨.count owner, .ok n⟩] (.error e)
  | unknown (hpolicy : policy.emptyListIsNotFound = false) {n : Option Int}
    (hcount : readCount n = .ok false) :
    Listed policy owner [⟨.list owner, .ok []⟩, ⟨.count owner, .ok n⟩]
      (.error (.userNotFound owner))
  | empty (hpolicy : policy.emptyListIsNotFound = false) {n : Option Int}
    (hcount : readCount n = .ok true) :
    Listed policy owner [⟨.list owner, .ok []⟩, ⟨.count owner, .ok n⟩] (.ok [])

end Database

/-- What is held over a connection is added to what was exchanged before. -/
theorem Backend.Connection.course_hold {σ α : Type} (c : Connection σ) (server : Database.Server σ)
    (d : Database.Dialogue α) :
    ∃ held, (c.hold server d).2.exchanges = c.exchanges ++ held ∧
      d.Course held (c.hold server d).1 :=
  ⟨_, rfl, Database.Dialogue.course_run server d c.server⟩

namespace Service

open Database (Exchange Listed Transaction)

variable {σ : Type}

/-- A transition over a server is one transaction. -/
theorem transaction_perform (server : Database.Server σ) (policy : Policy)
    (c : Backend.Connection σ) (t : Transition) :
    ∃ sent closing attempt,
      (perform (.database server) policy c t).2.exchanges = c.exchanges ++ (sent ++ closing) ∧
      (perform (.database server) policy c t).1.value = attempt.result.map (fun _ => ()) ∧
      Transaction t.pair (t.plan policy) sent closing attempt := by
  obtain ⟨held, hexchanges, hcourse⟩ :=
    c.course_hold server (Database.mutatePair t.pair (t.plan policy))
  obtain ⟨sent, closing, rfl, h⟩ := Database.transaction_of_course hcourse
  exact ⟨sent, closing, _, hexchanges, rfl, h⟩

/-- Asking a server for a friend list takes one of the courses of `Listed`. -/
theorem listed_friends (server : Database.Server σ) (policy : Policy) (c : Backend.Connection σ)
    (owner : AccountId) :
    ∃ held, (friends (.database server) policy c owner).2.exchanges = c.exchanges ++ held ∧
      Listed policy owner held (friends (.database server) policy c owner).1 := by
  obtain ⟨held, hexchanges, hcourse⟩ := c.course_hold server (Database.listVisible owner).run
  rcases hlisted : (Backend.database server).listVisible c owner with ⟨list, c'⟩
  have hhold : c.hold server (Database.listVisible owner).run = (list, c') := hlisted
  rw [hhold] at hexchanges hcourse
  rcases Database.course_listVisible hcourse with ⟨e, rfl, rfl⟩ | ⟨rows, rfl, hrows⟩
  · rw [friends_of_error policy hlisted]
    exact ⟨_, hexchanges, .notListed e⟩
  cases list with
  | error e =>
    rw [friends_of_error policy hlisted]
    exact ⟨_, hexchanges, .unreadable hrows.symm⟩
  | ok list =>
    cases list with
    | cons first rest =>
      rw [friends_of_cons policy hlisted]
      exact ⟨_, hexchanges, .listed hrows.symm⟩
    | nil =>
      obtain rfl := Database.eq_nil_of_readFriends hrows.symm
      rw [friends_of_nil policy hlisted]
      cases hpolicy : policy.emptyListIsNotFound with
      | true => exact ⟨_, hexchanges, .missing hpolicy⟩
      | false =>
        -- Only now is there a second query, on the connection that the first has left.
        obtain ⟨counted, hcounted, hcourse'⟩ :=
          c'.course_hold server (Database.accountExists owner).run
        rw [hexchanges, List.append_assoc] at hcounted
        refine ⟨_, hcounted, ?_⟩
        have hlive : ((Backend.database server).accountExists c' owner).1 =
            (c'.hold server (Database.accountExists owner).run).1 := rfl
        rw [if_neg Bool.false_ne_true, hlive]
        rcases Database.course_accountExists hcourse' with ⟨e, rfl, hb⟩ | ⟨n, rfl, hb⟩
        · rw [hb]
          exact .notCounted hpolicy e
        rw [hb]
        cases hcount : Database.readCount n with
        | error e => exact .uncountable hpolicy hcount
        | ok live =>
          cases live with
          | false => exact .unknown hpolicy hcount
          | true => exact .empty hpolicy hcount

end Service
end Friendship
