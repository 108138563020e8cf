import Friendship.Proofs.Database.Discretion
import Friendship.Proofs.Http.Authority
import Friendship.Proofs.Service.SelfRelations

/-!
# What of a store is told outside

A fault of the store is logged with all that is known of it, and a reply has nothing of it: two
servers that fail at the same statements for different reasons lead to the same reply, and if a
fault decides a call, the reply is the one for all faults: `faults_hidden`. What a fault is, for a
reply, is said of single exchanges with a server: `Exchange.IsFault`.
-/
namespace Friendship

namespace Database

/-- The texts of statuses that a server answers. -/
def Exchange.statuses : Exchange → List String
  | ⟨.lockPair _, .ok rows⟩ => rows.map Prod.snd
  | ⟨.list _, .ok rows⟩ => rows.map FriendRow.status
  | _ => []

/-- An exchange in which the store fails: a statement other than a rollback has a failure that is
not told outside, or the server answers a status that is none. -/
inductive Exchange.IsFault : Exchange → Prop
  | failed {q : Statement} {e : QueryError} (hq : q ≠ .rollback) (he : e.Hidden q.label) :
    IsFault ⟨q, .error e⟩
  | unknown {x : Exchange} {text : String} (htext : text ∈ x.statuses)
    (hnone : Status.ofText? text = none) : IsFault x

theorem FailuresTold.internal {α : Type} {held : List Exchange} {result : Except RelationError α}
    {q : Statement} {e : QueryError} (h : FailuresTold held result)
    (hx : (⟨q, .error e⟩ : Exchange) ∈ held) (hq : q ≠ .rollback) (he : e.Hidden q.label) :
    ∃ fault, result = .error (.internal fault) := by
  obtain ⟨told, rfl, htold⟩ := h _ hx hq e rfl
  cases htold with
  | fault => exact ⟨_, rfl⟩
  | owner hkey => exact absurd hkey (he rfl)
  | counterparty hkey => exact absurd hkey (he rfl)

/-- What is sent for a plan is not answered by statuses. -/
theorem statuses_of_mem_tasks {p : DirectedPair} {plan? : Option (List Write)} {x : Exchange}
    (h : x.statement ∈ tasks p plan?) : x.statuses = [] := by
  obtain ⟨q, answer⟩ := x
  cases plan? with
  | none => cases h
  | some plan =>
    simp only [tasks, List.mem_append, List.mem_singleton, List.mem_map] at h
    rcases h with (h | ⟨w, -, rfl⟩) | rfl
    · split at h
      · obtain rfl := List.mem_singleton.1 h
        rfl
      · cases h
    · cases w <;> rfl
    · rfl

section Transaction

variable {p : DirectedPair} {planner : Planner} {sent closing held : List Exchange}
  {attempt : Attempt} {x : Exchange} {text : String}

/-- If the locked rows can be read, all statuses of a transaction are known. -/
theorem CarriedOut.isSome_ofText? {rows : List (DirectedPair × String)} {seen : Snapshot}
    {answer : Except RelationError (List Write)} {b : Except RelationError Nat}
    (h : CarriedOut p answer held b) (hrows : snapshotOf p rows = .ok seen)
    (hclosing : ∀ x ∈ closing, x.statement = .rollback)
    (hx : x ∈ begun :: locked p rows :: held ++ closing) (htext : text ∈ x.statuses) :
    (Status.ofText? text).isSome = true := by
  rcases List.mem_append.1 hx with hx | hx
  · rcases List.mem_cons.1 hx with rfl | hx
    · cases htext
    rcases List.mem_cons.1 hx with rfl | hx
    · obtain ⟨row, hrow, rfl⟩ := List.mem_map.1 htext
      exact snapshotOf_eq_ok_iff.1 ⟨seen, hrows⟩ row hrow
    · rw [statuses_of_mem_tasks (h.inOrder.subset (List.mem_map_of_mem hx))] at htext
      cases htext
  · obtain ⟨q, answer⟩ := x
    obtain rfl : q = .rollback := hclosing _ hx
    cases htext

theorem Transaction.internal_of_isFault (h : Transaction p planner sent closing attempt)
    (hx : x ∈ sent ++ closing) (hfault : x.IsFault) :
    ∃ fault, attempt.result = .error (.internal fault) := by
  cases hfault with
  | failed hq he => exact h.told.internal hx hq he
  | unknown htext hnone =>
    have hclosing := h.closing_eq_rollback
    -- What ends before the rows are read is a fault anyway; once they are, all statuses are known.
    cases h with
    | notBegun e => exact ⟨_, rfl⟩
    | notLocked e reply => exact ⟨_, rfl⟩
    | unreadable hrows reply =>
      obtain ⟨text, rfl⟩ := eq_unknownStatus_of_snapshotOf hrows
      exact ⟨_, rfl⟩
    | failed hrows hheld reply =>
      exact absurd (hheld.isSome_ofText? hrows hclosing hx htext) (by simp [hnone])
    | succeeded hrows hheld =>
      exact absurd (hheld.isSome_ofText? hrows hclosing hx htext) (by simp [hnone])

end Transaction

/-- The rows of a list can be read if all their statuses are known, and else one of them is what
failed. -/
theorem readFriends_cases (rows : List FriendRow) :
    (∃ list, readFriends rows = .ok list) ∧
        (∀ row ∈ rows, (Status.ofText? row.status).isSome = true) ∨
      ∃ text, readFriends rows = .error (.internal (.unknownStatus text)) := by
  unfold readFriends
  induction rows with
  | nil => exact .inl ⟨⟨[], rfl⟩, nofun⟩
  | cons row rows ih =>
    simp only [List.mapM_cons, readFriend, readStatus]
    cases htext : Status.ofText? row.status with
    | none => exact .inr ⟨row.status, rfl⟩
    | some status =>
      rcases ih with ⟨⟨list, hlist⟩, hrows⟩ | ⟨text, htext⟩
      · refine .inl ⟨⟨⟨row.id, row.username, row.avatar, status, row.since⟩ :: list, ?_⟩, ?_⟩
        · simp only [hlist]
          rfl
        · exact List.forall_mem_cons.2 ⟨by rw [htext]; rfl, hrows⟩
      · exact .inr ⟨text, by simp only [htext]; rfl⟩

theorem Listed.internal_of_isFault {policy : Policy} {owner : AccountId} {held : List Exchange}
    {list : Except RelationError (List Friend)} {x : Exchange}
    (h : Listed policy owner held list) (hx : x ∈ held) (hfault : x.IsFault) :
    ∃ fault, list = .error (.internal fault) := by
  cases hfault with
  | failed hq he => exact h.told.internal hx hq he
  | @unknown _ text htext hnone =>
    -- Only a list that came with rows tells statuses; a count tells none.
    cases h with
    | notListed e => exact ⟨_, rfl⟩
    | notCounted hpolicy e => exact ⟨_, rfl⟩
    | @unreadable rows e hrows =>
      rcases readFriends_cases rows with ⟨⟨list, hlist⟩, -⟩ | ⟨text, htext⟩
      · rw [hlist] at hrows
        cases hrows
      · rw [htext] at hrows
        cases hrows
        exact ⟨_, rfl⟩
    | @listed rows first rest hrows =>
      obtain rfl := List.mem_singleton.1 hx
      obtain ⟨row, hrow, rfl⟩ := List.mem_map.1 htext
      rcases readFriends_cases rows with ⟨-, hknown⟩ | ⟨text, htext⟩
      · exact absurd (hknown row hrow) (by simp [hnone])
      · rw [htext] at hrows
        cases hrows
    | missing hpolicy =>
      obtain rfl := List.mem_singleton.1 hx
      cases htext
    | uncountable hpolicy hcount =>
      rcases List.mem_pair.1 hx with rfl | rfl <;> cases htext
    | unknown hpolicy hcount =>
      rcases List.mem_pair.1 hx with rfl | rfl <;> cases htext
    | empty hpolicy hcount =>
      rcases List.mem_pair.1 hx with rfl | rfl <;> cases htext

end Database

namespace Service

open Backend (Connection)
open Database (Dialogue Exchange Server)

variable {σ : Type} {server server' : Server σ} {policy : Policy} {c c' : Connection σ}

/-- A call in which the store fails tells a fault of the store. -/
theorem internal_of_isFault (server : Server σ) (policy : Policy) (c : Connection σ)
    (request : Call) :
    ∃ held, (call (.database server) policy c request).2.exchanges = c.exchanges ++ held ∧
      ((∃ x ∈ held, x.IsFault) → ∃ fault,
        (call (.database server) policy c request).1.value = .error (.internal fault)) := by
  cases request with
  | transition t =>
    obtain ⟨sent, closing, attempt, hexchanges, hvalue, h⟩ :=
      transaction_perform server policy c t
    refine ⟨sent ++ closing, hexchanges, fun ⟨x, hx, hfault⟩ => ?_⟩
    obtain ⟨fault, hresult⟩ := h.internal_of_isFault hx hfault
    rw [hresult] at hvalue
    exact ⟨fault, congrArg (Except.map fun _ => []) hvalue⟩
  | friends owner =>
    obtain ⟨held, hexchanges, h⟩ := listed_friends server policy c owner
    exact ⟨held, hexchanges, fun ⟨x, hx, hfault⟩ => h.internal_of_isFault hx hfault⟩

theorem hold_parallel {α : Type} {P : α → α → Prop} {d d' : Dialogue α} (h : d.Parallel P d')
    (hservers : server.InStep server') (hc : c.server = c'.server) :
    P (c.hold server d).1 (c'.hold server' d').1 ∧
      (c.hold server d).2.server = (c'.hold server' d').2.server := by
  simp only [Connection.hold, hc]
  exact h.run hservers c'.server

theorem friends_indistinct (hservers : server.InStep server') (policy : Policy)
    (hc : c.server = c'.server) (owner : AccountId) :
    Indistinct (friends (.database server) policy c owner).1
        (friends (.database server') policy c' owner).1 ∧
      (friends (.database server) policy c owner).2.server =
        (friends (.database server') policy c' owner).2.server := by
  rcases h : (Backend.database server).listVisible c owner with ⟨list, next⟩
  rcases h' : (Backend.database server').listVisible c' owner with ⟨list', next'⟩
  have hhold : c.hold server (Database.listVisible owner).run = (list, next) := h
  have hhold' : c'.hold server' (Database.listVisible owner).run = (list', next') := h'
  obtain ⟨hlist, hserver⟩ := hold_parallel (Database.discreet_listVisible owner) hservers hc
  rw [hhold, hhold'] at hlist hserver
  cases hlist with
  | error he =>
    rw [friends_of_error policy h, friends_of_error policy h']
    exact ⟨.error he, hserver⟩
  | ok list =>
    cases list with
    | cons first rest =>
      rw [friends_of_cons policy h, friends_of_cons policy h']
      exact ⟨.ok _, hserver⟩
    | nil =>
      -- The lists are the same, so the owner is asked for over both connections or over none.
      rw [friends_of_nil policy h, friends_of_nil policy h']
      cases hpolicy : policy.emptyListIsNotFound with
      | true => exact ⟨.refl _, hserver⟩
      | false =>
        obtain ⟨hlive, hserver'⟩ :=
          hold_parallel (Database.discreet_accountExists owner) hservers hserver
        exact ⟨hlive.bind _, hserver'⟩

theorem call_indistinct (hservers : server.InStep server') (policy : Policy)
    (hc : c.server = c'.server) (request : Call) :
    Indistinct (call (.database server) policy c request).1.value
        (call (.database server') policy c' request).1.value ∧
      (call (.database server) policy c request).2.server =
        (call (.database server') policy c' request).2.server := by
  cases request with
  | friends owner => exact friends_indistinct hservers policy hc owner
  | transition t =>
    obtain ⟨hattempt, hserver⟩ := hold_parallel
      (Database.parallel_mutatePair t.pair (t.plan policy)) hservers hc
    exact ⟨(hattempt.map _).map _, hserver⟩

end Service

namespace Http

open Backend (Connection)
open Database (Script Server)

/-- The reply to all faults. -/
def Reply.fault : Reply := .failure 500 ⟨.internalError, "Internal error"⟩

theorem replyTo_internal (call : Call) (fault : Fault) :
    (replyTo call (.error (.internal fault))).value = .fault := rfl

theorem replyTo_indistinct (call : Call) {r r' : Except RelationError (List Friend)}
    (h : Indistinct r r') : (replyTo call r).value = (replyTo call r').value := by
  cases h with
  | ok => rfl
  | error h =>
    cases h with
    | same => rfl
    | internal fault fault' => rw [replyTo_internal, replyTo_internal]

/-- Over servers in step a request is answered alike, and leaves them in step. -/
theorem answer_inStep {σ : Type} {server server' : Server σ} (hservers : server.InStep server')
    (verify : Verifier) (policy : Policy) {c c' : Connection σ} (hc : c.server = c'.server)
    (r : Request) :
    (answer verify (.database server) policy c r).1.value =
        (answer verify (.database server') policy c' r).1.value ∧
      (answer verify (.database server) policy c r).2.server =
        (answer verify (.database server') policy c' r).2.server := by
  cases hcall : (route verify r).value with
  | error rejection => simp only [answer_of_error hcall, hc, and_self]
  | ok call =>
    obtain ⟨hvalue, hserver⟩ := Service.call_indistinct hservers policy hc call
    simp only [answer_of_ok hcall]
    exact ⟨replyTo_indistinct call hvalue, hserver⟩

/-- Nothing of a fault of the store is told outside. Two scripts that differ at most in the code,
the state and the message of hidden failures lead to the same reply, whatever is asked, and leave
the server alike for the next request. Over any server, if a fault is among what is said to it for a
request, the reply is the one for all faults. -/
theorem faults_hidden (verify : Verifier) (policy : Policy) (r : Request) :
    (∀ {script script' : Script}, script.Alike script' →
      ∀ c c' : Connection (List String), c.server = c'.server →
      (answer verify (.database script.server) policy c r).1.value =
          (answer verify (.database script'.server) policy c' r).1.value ∧
        (answer verify (.database script.server) policy c r).2.server =
          (answer verify (.database script'.server) policy c' r).2.server) ∧
    ∀ {σ : Type} (server : Server σ) (c : Connection σ), ∃ held,
      (answer verify (.database server) policy c r).2.exchanges = c.exchanges ++ held ∧
      ((∃ x ∈ held, x.IsFault) → (answer verify (.database server) policy c r).1.value =
        .failure 500 ⟨.internalError, "Internal error"⟩) := by
  refine ⟨fun h c c' hc => answer_inStep h.inStep verify policy hc r, fun server c => ?_⟩
  cases hcall : (route verify r).value with
  | error rejection =>
    rw [answer_of_error hcall]
    exact ⟨[], (List.append_nil _).symm, nofun⟩
  | ok call =>
    obtain ⟨held, hexchanges, hfault⟩ := Service.internal_of_isFault server policy c call
    rw [answer_of_ok hcall]
    refine ⟨held, hexchanges, fun hx => ?_⟩
    obtain ⟨fault, hvalue⟩ := hfault hx
    simp only [hvalue, replyTo_internal]
    rfl

end Http

namespace Sample

/-- Two sessions waited for each other. -/
def deadlock : Database.ServerError :=
  ⟨1213, some "40001", "Deadlock found when trying to get lock"⟩

/-- A session waited too long. -/
def lockTimeout : Database.ServerError :=
  ⟨1205, some "HY000", "Lock wait timeout exceeded"⟩

/-- A server that has a request of Alice to Bob, which it fails to delete. -/
def stuck (e : Database.ServerError) : Database.Script where
  lockedRows := [(⟨alice, bob⟩, "pending")]
  failures := [("DELETE", [some e])]

/-- How Alice's farewell is answered by a server that is stuck. -/
def farewellTo (e : Database.ServerError) :
    Logged Http.Reply × Backend.Connection (List String) :=
  Http.answer farewell.verify (.database (stuck e).server) {} ⟨[], []⟩ farewell.request

theorem stuck_alike : (stuck deadlock).Alike (stuck lockTimeout) where
  rows := rfl
  failures := .cons ⟨rfl, .cons (.failed nofun nofun) .nil⟩ .nil

end Sample

namespace Http

/-- Whether it was a deadlock or a lock that was waited for too long is logged, and not told. -/
theorem faults_hidden_deadlock :
    (Sample.stuck Sample.deadlock).Alike (Sample.stuck Sample.lockTimeout) ∧
    (Sample.farewellTo Sample.deadlock).1.value = (Sample.farewellTo Sample.lockTimeout).1.value ∧
    (Sample.farewellTo Sample.deadlock).1.value =
      .failure 500 ⟨.internalError, "Internal error"⟩ ∧
    (Sample.farewellTo Sample.deadlock).1.log ≠ (Sample.farewellTo Sample.lockTimeout).1.log := by
  obtain ⟨halike, hserver⟩ := faults_hidden Sample.farewell.verify {} Sample.farewell.request
  refine ⟨Sample.stuck_alike, (halike Sample.stuck_alike ⟨[], []⟩ ⟨[], []⟩ rfl).1, ?_, ?_⟩
  · obtain ⟨held, hexchanges, hreply⟩ :=
      hserver (Sample.stuck Sample.deadlock).server ⟨[], []⟩
    rw [answer_of_ok Sample.asks_farewell, List.nil_append] at hexchanges
    refine hreply ⟨⟨.delete ⟨Sample.alice, Sample.bob⟩, .error (.server Sample.deadlock)⟩, ?_,
      .failed nofun nofun⟩
    rw [← hexchanges]
    exact .tail _ (.tail _ (.head _))
  · decide +kernel

end Http
end Friendship
