import Friendship.Database.Script
import Friendship.Proofs.Database.Protocol
import Friendship.Proofs.Service.Coherence
import Friendship.Proofs.Service.Course

/-!
# Failures of a store

A statement that fails ends its call with an internal error, which tells the step and the failure;
only a row that refers to nothing is told as a missing account. So a failure is never taken for an
answer: `failure_told`.
-/
namespace Friendship

namespace Database

/-- The server refused a row that refers to nothing. -/
def QueryError.IsForeignKey : QueryError → Prop
  | .server e => e.code = 1216 ∨ e.code = 1452
  | _ => False

theorem foreignKey?_isSome_iff {e : QueryError} :
    e.foreignKey?.isSome = true ↔ e.IsForeignKey := by
  cases e
  case server e =>
    simp only [QueryError.foreignKey?, ForeignKey.ofMessage?, ForeignKey.numbers,
      QueryError.IsForeignKey, List.mem_cons, List.not_mem_nil, or_false]
    by_cases hnumber : e.code = 1216 ∨ e.code = 1452
    · rw [if_neg (not_not_intro hnumber)]
      split
      · simp [hnumber]
      · split <;> simp [hnumber]
    · rw [if_pos hnumber]
      simp [hnumber]
  all_goals simp [QueryError.foreignKey?, QueryError.IsForeignKey]

/-- The step that the failure of a statement is told with; nobody is told of a rollback. -/
def Statement.step? : Statement → Option Step
  | start => some .start
  | lockPair _ => some .lockPair
  | retired _ => some .checkRetired
  | put .. => some .putRow
  | delete _ => some .deleteRow
  | commit => some .commit
  | list _ => some .listFriends
  | count _ => some .queryAccount
  | rollback | upkeep _ => none

/-- What the failure of a statement is told as: its step and the failure, or, for a row that is
put and refers to nothing, that one of its ends is not found. -/
inductive ToldAs : Statement → QueryError → RelationError → Prop
  | fault {q : Statement} {step : Step} {e : QueryError} (hstep : q.step? = some step)
    (hput : step = .putRow → ¬ e.IsForeignKey) : ToldAs q e (.internal (.query step e))
  | owner {row : DirectedPair} {status : Status} {e : QueryError} (he : e.IsForeignKey) :
    ToldAs (.put row status) e (.userNotFound row.first)
  | counterparty {row : DirectedPair} {status : Status} {e : QueryError} (he : e.IsForeignKey) :
    ToldAs (.put row status) e (.userNotFound row.second)

theorem toldAs_putError (row : DirectedPair) (status : Status) (e : QueryError) :
    ToldAs (.put row status) e (putError row e) := by
  have hkey := foreignKey?_isSome_iff (e := e)
  unfold putError
  split
  case h_1 h => exact .owner (hkey.1 (by rw [h]; rfl))
  case h_2 h => exact .counterparty (hkey.1 (by rw [h]; rfl))
  case h_3 h => exact .counterparty (hkey.1 (by rw [h]; rfl))
  case h_4 h => exact .fault rfl fun _ he => by simp [h, he] at hkey

theorem toldAs_writeFault (w : Write) (e : QueryError) :
    ToldAs (.ofWrite w) e (writeFault w e) := by
  cases w with
  | put row status => exact toldAs_putError row status e
  | delete row => exact .fault rfl nofun

/-- Each failure among some exchanges is what a result tells; that of a rollback is told to
nobody. -/
def FailuresTold {α : Type} (held : List Exchange) (result : Except RelationError α) : Prop :=
  ∀ x ∈ held, x.statement ≠ .rollback → ∀ e, x.answer = .error e →
    ∃ told, result = .error told ∧ ToldAs x.statement e told

section Told

variable {α β : Type} {held before : List Exchange} {result : Except RelationError α}

theorem FailuresTold.map (f : α → β) (h : FailuresTold held result) :
    FailuresTold held (result.map f) := by
  intro x hx hne e he
  obtain ⟨told, rfl, htold⟩ := h x hx hne e he
  exact ⟨told, rfl, htold⟩

theorem failuresTold_of_succeeded (h : ∀ x ∈ held, x.succeeded = true) :
    FailuresTold held result := by
  intro x hx _ e he
  have hok := h x hx
  rw [Exchange.succeeded, he] at hok
  cases hok

theorem failuresTold_nil : FailuresTold [] result := nofun

/-- If all went well before, only the last failure is to be told. -/
theorem failuresTold_concat {q : Statement} {e : QueryError} {told : RelationError}
    (hbefore : ∀ x ∈ before, x.succeeded = true) (h : ToldAs q e told) :
    FailuresTold (before ++ [⟨q, .error e⟩]) (.error told : Except RelationError α) := by
  intro x hx hne e' he
  rcases List.mem_append.1 hx with hx | hx
  · exact failuresTold_of_succeeded hbefore x hx hne e' he
  · obtain rfl := List.mem_singleton.1 hx
    cases he
    exact ⟨told, rfl, h⟩

theorem failuresTold_singleton {q : Statement} {e : QueryError} {told : RelationError}
    (h : ToldAs q e told) :
    FailuresTold [⟨q, .error e⟩] (.error told : Except RelationError α) := by
  have hnone : ∀ x ∈ ([] : List Exchange), x.succeeded = true := nofun
  exact failuresTold_concat hnone h

theorem FailuresTold.cons {x : Exchange} (hx : x.succeeded = true)
    (h : FailuresTold held result) : FailuresTold (x :: held) result := by
  intro y hy hne e he
  rcases List.mem_cons.1 hy with rfl | hy
  · exact failuresTold_of_succeeded (by simpa using hx) y (List.mem_singleton_self y) hne e he
  · exact h y hy hne e he

variable {p : DirectedPair} {planner : Planner} {answer : Except RelationError (List Write)}
  {sent closing : List Exchange} {attempt : Attempt} {b : Except RelationError Nat}

theorem CarriedOut.told (h : CarriedOut p answer held b) : FailuresTold held b := by
  cases h with
  | refused e => exact failuresTold_nil
  | notChecked hput e => exact failuresTold_singleton (.fault rfl nofun)
  | retired hput hid => exact .cons rfl failuresTold_nil
  | notWritten hcheck e =>
    exact failuresTold_concat (fun x hx => (hcheck.succeeded hx).1) (toldAs_writeFault _ e)
  | notCommitted hcheck e =>
    exact failuresTold_concat (fun x hx => (hcheck.succeeded hx).1) (.fault rfl nofun)
  | committed hcheck => exact failuresTold_of_succeeded (CarriedOut.committed hcheck).all_succeeded

theorem Transaction.closing_eq_rollback (h : Transaction p planner sent closing attempt) :
    ∀ x ∈ closing, x.statement = .rollback := by
  cases h <;> simp [Database.rolledBack]

theorem Transaction.told (h : Transaction p planner sent closing attempt) :
    FailuresTold (sent ++ closing) attempt.result := by
  have hsent : FailuresTold sent attempt.result := by
    cases h with
    | notBegun e => exact failuresTold_singleton (.fault rfl nofun)
    | notLocked e reply => exact .cons rfl (failuresTold_singleton (.fault rfl nofun))
    | unreadable hrows reply => exact .cons rfl (.cons rfl failuresTold_nil)
    | failed hrows hheld reply => exact .cons rfl (.cons rfl hheld.told)
    | succeeded hrows hheld => exact .cons rfl (.cons rfl hheld.told)
  -- Only a rollback is sent to close, and what comes of it is told to nobody.
  intro x hx hne
  rcases List.mem_append.1 hx with hx | hx
  · exact hsent x hx hne
  · exact absurd (h.closing_eq_rollback x hx) hne

variable {policy : Policy} {owner : AccountId} {list : Except RelationError (List Friend)}

theorem Listed.told (h : Listed policy owner held list) : FailuresTold held list := by
  cases h with
  | notListed e => exact failuresTold_singleton (.fault rfl nofun)
  | notCounted hpolicy e => exact .cons rfl (failuresTold_singleton (.fault rfl nofun))
  | unreadable hrows => exact .cons rfl failuresTold_nil
  | listed hrows => exact .cons rfl failuresTold_nil
  | missing hpolicy => exact .cons rfl failuresTold_nil
  | uncountable hpolicy hcount => exact .cons rfl (.cons rfl failuresTold_nil)
  | unknown hpolicy hcount => exact .cons rfl (.cons rfl failuresTold_nil)
  | empty hpolicy hcount => exact .cons rfl (.cons rfl failuresTold_nil)

theorem list_nil_not_mem {rows : List FriendRow} (hrows : readFriends rows = list)
    (hlist : list ≠ .ok []) :
    (⟨.list owner, .ok []⟩ : Exchange) ∉ [(⟨.list owner, .ok rows⟩ : Exchange)] := by
  intro h
  cases List.mem_singleton.1 h
  exact hlist hrows.symm

/-- An account is asked for if and only if it is the owner of a list that came without an entry,
and the policy leaves open what that means. -/
theorem Listed.count_mem_iff (h : Listed policy owner held list) (id : AccountId) :
    .count id ∈ held.map Exchange.statement ↔
      id = owner ∧ (⟨.list owner, .ok []⟩ : Exchange) ∈ held ∧
        policy.emptyListIsNotFound = false := by
  cases h with
  | notListed e => simp
  | unreadable hrows =>
    exact ⟨fun h => by simp at h, fun h => absurd h.2.1 (list_nil_not_mem hrows nofun)⟩
  | listed hrows =>
    exact ⟨fun h => by simp at h, fun h => absurd h.2.1 (list_nil_not_mem hrows nofun)⟩
  | missing hpolicy => simp [hpolicy]
  | notCounted hpolicy e => simp [hpolicy]
  | uncountable hpolicy hcount => simp [hpolicy]
  | unknown hpolicy hcount => simp [hpolicy]
  | empty hpolicy hcount => simp [hpolicy]

end Told

end Database

namespace Sample

/-- What a server says of a row whose counterparty has no account. -/
def unrelated : Database.ServerError where
  code := 1452
  state := some "23000"
  message := "Cannot add or update a child row: FOREIGN KEY (`counterparty_id`)"

/-- A server that takes no row. -/
def refusing : Database.Script where
  failures := [("PUT", [some unrelated])]

/-- Alice asks Bob. -/
def asking : Call := .transition ⟨.addFriend, alice, bob⟩

end Sample

namespace Service

open Database (Exchange FailuresTold ToldAs closedPool)

section Poisoned

variable {s : Store}

theorem mutatePair_poisoned (hs : s.poisoned = true) (now : Instant) (p : DirectedPair)
    (planner : Planner) :
    s.mutatePair now p planner = (⟨none, .error (.internal .poisoned)⟩, s) := by
  simp only [Store.mutatePair, hs, if_true]

theorem friends_poisoned (hs : s.poisoned = true) (now : Instant) (policy : Policy)
    (owner : AccountId) :
    friends (.memory now) policy s owner = (.error (.internal .poisoned), s) := by
  have hlist : s.listVisible owner = .error (.internal .poisoned) := by
    simp only [Store.listVisible, hs, if_true]
  exact friends_of_error policy (Backend.memory_listVisible hlist now)

/-- Whatever is asked of a poisoned store, that it is poisoned is the answer, and it stays. -/
theorem carryOut_poisoned (hs : s.poisoned = true) (policy : Policy) (now : Instant)
    (step : Step) :
    (step.carryOut policy now s).1.value = .error (.internal .poisoned) ∧
      (step.carryOut policy now s).2 = s := by
  cases step with
  | call request =>
    cases request with
    | transition t =>
      simp only [Step.carryOut, call, perform, Backend.memory, mutatePair_poisoned hs]
      exact ⟨rfl, trivial⟩
    | friends owner =>
      simp only [Step.carryOut, call, friends_poisoned hs]
      exact ⟨trivial, trivial⟩
  | insertAccount id username avatar =>
    have hinsert : s.insertAccount id username avatar = .error (.internal .poisoned) := by
      simp only [Store.insertAccount, hs, if_true]
    rw [Step.carryOut, hinsert]
    exact ⟨rfl, rfl⟩
  | deleteAccount id =>
    have hdelete : s.deleteAccount id = .error (.internal .poisoned) := by
      simp only [Store.deleteAccount, hs, if_true]
    rw [Step.carryOut, hdelete]
    exact ⟨rfl, rfl⟩

theorem run_poisoned (hs : s.poisoned = true) (policy : Policy) (history : History) :
    history.store policy s = s ∧
      ∀ answer ∈ (history.run policy s).1, answer.value = .error (.internal .poisoned) := by
  induction history with
  | nil => exact ⟨rfl, nofun⟩
  | cons first rest ih =>
    obtain ⟨hanswer, hsame⟩ := carryOut_poisoned hs policy first.1 first.2
    rw [← hsame] at ih
    refine ⟨ih.1.trans hsame, fun answer hmem => ?_⟩
    rcases List.mem_cons.1 hmem with rfl | hmem
    · exact hanswer
    · exact ih.2 answer hmem

end Poisoned

section Server

variable {σ : Type}

/-- Over a server each failure of a call is told, whatever the call. -/
theorem failuresTold_call (server : Database.Server σ) (policy : Policy)
    (c : Backend.Connection σ) (request : Call) :
    ∃ held, (call (.database server) policy c request).2.exchanges = c.exchanges ++ held ∧
      FailuresTold held (call (.database server) policy c request).1.value ∧
      ∀ owner, request = .friends owner → ∀ id,
        .count id ∈ held.map Exchange.statement ↔
          id = owner ∧ (⟨.list owner, .ok []⟩ : Exchange) ∈ held ∧
            policy.emptyListIsNotFound = false := by
  cases request with
  | transition t =>
    obtain ⟨sent, closing, attempt, hexchanges, hvalue, h⟩ :=
      transaction_perform server policy c t
    refine ⟨sent ++ closing, hexchanges, ?_, nofun⟩
    have hanswer : (call (.database server) policy c (.transition t)).1.value =
        (attempt.result.map fun _ => ()).map fun _ => [] :=
      congrArg (Except.map fun _ => []) hvalue
    rw [hanswer]
    exact (h.told.map _).map _
  | friends owner =>
    obtain ⟨held, hexchanges, h⟩ := listed_friends server policy c owner
    refine ⟨held, hexchanges, h.told, ?_⟩
    rintro _ ⟨⟩ id
    exact h.count_mem_iff id

end Server

/-- A failure of the store is never taken for an answer about the data. Over a server each statement
of a call that fails, other than a rollback, is what the call tells: its step and the failure, or,
for a row that is put and refers to nothing, an end of it that is not found. An account is asked
for only after its list came without an entry, and then always, unless the policy settles that.
Over a pool that is closed and over a poisoned store each call tells just that, and a poisoned
store stays as it is. -/
theorem failure_told (policy : Policy) :
    (∀ {σ : Type} (server : Database.Server σ) (c : Backend.Connection σ) (request : Call),
      ∃ held, (call (.database server) policy c request).2.exchanges = c.exchanges ++ held ∧
        FailuresTold held (call (.database server) policy c request).1.value ∧
        ∀ owner, request = .friends owner → ∀ id,
          .count id ∈ held.map Exchange.statement ↔
            id = owner ∧ (⟨.list owner, .ok []⟩ : Exchange) ∈ held ∧
              policy.emptyListIsNotFound = false) ∧
    (∀ (c : Backend.Connection Unit) (request : Call), ∃ step,
      (call (.database closedPool) policy c request).1.value =
        .error (.internal (.query step .poolClosed))) ∧
    ∀ s : Store, s.poisoned = true → ∀ history : History, history.store policy s = s ∧
      ∀ answer ∈ (history.run policy s).1, answer.value = .error (.internal .poisoned) := by
  refine ⟨fun server c request => failuresTold_call server policy c request, fun c request => ?_,
    fun s hs history => run_poisoned hs policy history⟩
  cases request with
  | transition t => exact ⟨.start, rfl⟩
  | friends owner => exact ⟨.listFriends, rfl⟩

/-- Alice asks Bob, of whom the server has no account, and a request that nobody keeps. -/
theorem failure_told_unknown_account :
    (∃ told, (call (.database Sample.refusing.server) {} ⟨[], []⟩ Sample.asking).1.value =
      .error told ∧ ToldAs (.put ⟨Sample.alice, Sample.bob⟩ .pending) (.server Sample.unrelated)
        told) ∧
    Sample.request.store {} Store.empty.poison = Store.empty.poison ∧
      ∀ answer ∈ (Sample.request.run {} Store.empty.poison).1,
        answer.value = .error (.internal .poisoned) := by
  obtain ⟨hserver, -, hpoisoned⟩ := failure_told {}
  obtain ⟨held, hexchanges, htold, -⟩ := hserver Sample.refusing.server ⟨[], []⟩ Sample.asking
  have hput : (⟨.put ⟨Sample.alice, Sample.bob⟩ .pending, .error (.server Sample.unrelated)⟩ :
      Exchange) ∈ held := by
    rw [List.nil_append] at hexchanges
    rw [← hexchanges]
    exact .tail _ (.tail _ (.tail _ (.head _)))
  exact ⟨htold _ hput (by simp) _ rfl, hpoisoned _ rfl Sample.request⟩

end Service
end Friendship
