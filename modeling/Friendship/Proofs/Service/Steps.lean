import Friendship.Proofs.Service.Coherence

/-!
# What a step leaves alone

A transition changes no rows but the two of its pair, and no accounts; accounts that come and go
change no rows. This holds of every store, in use or not, coherent or not: `get?_perform` is about
a transition, `get?_carryOut` and `stands_carryOut` are about any step.
-/
namespace Friendship

namespace Transition

variable {t : Transition} {p : DirectedPair}

/-- The two accounts of the transition are those of the pair, in either order. -/
def isBetween (t : Transition) (p : DirectedPair) : Bool :=
  t.actor = p.first && t.other = p.second || t.actor = p.second && t.other = p.first

theorem isBetween_iff : t.isBetween p = true ↔ t.pair = p ∨ t.pair = p.reversed := by
  obtain ⟨action, actor, other⟩ := t
  obtain ⟨first, second⟩ := p
  cases action <;> simp [isBetween, pair, DirectedPair.reversed] <;> grind

/-- A pair that a transition is between is the transition's own pair, seen from either side. -/
theorem eq_pair_or_eq_reversed (h : t.isBetween p = true) : p = t.pair ∨ p = t.pair.reversed :=
  (isBetween_iff.1 h).imp Eq.symm fun e => DirectedPair.reversed_eq_iff.1 e.symm

@[simp] theorem isBetween_pair (t : Transition) : t.isBetween t.pair = true :=
  isBetween_iff.2 (Or.inl rfl)

@[simp] theorem isBetween_reversed (t : Transition) (p : DirectedPair) :
    t.isBetween p.reversed = t.isBetween p := by
  rw [Bool.eq_iff_iff, isBetween_iff, isBetween_iff, DirectedPair.reversed_reversed, or_comm]

theorem isBetween_pair_comm (t u : Transition) : t.isBetween u.pair = u.isBetween t.pair := by
  rw [Bool.eq_iff_iff, isBetween_iff, isBetween_iff]
  exact or_congr eq_comm (Iff.trans eq_comm DirectedPair.reversed_eq_iff)

/-- Transitions on different pairs are not between the same accounts. -/
theorem isBetween_eq_false_of_pair {u : Transition} (ht : t.isBetween p = true)
    (hut : u.isBetween t.pair = false) : u.isBetween p = false := by
  rcases eq_pair_or_eq_reversed ht with rfl | rfl
  · exact hut
  · rw [isBetween_reversed]
    exact hut

end Transition

namespace Store

/-- Changing a pair leaves the store as it was or makes the writes that were planned. -/
theorem mutatePair_store (s : Store) (now : Instant) (p : DirectedPair) (planner : Planner) :
    (s.mutatePair now p planner).2 = s ∨
      ∃ plan, planner (s.snapshot p) = .ok plan ∧
        (s.mutatePair now p planner).2 = s.writeAll now plan := by
  cases hs : s.poisoned with
  | true =>
    left
    simp [mutatePair, hs]
  | false =>
    rcases mutatePair_cases hs now p planner with
      ⟨e, -, heq⟩ | ⟨plan, id, -, -, heq⟩ | ⟨plan, hplan, -, heq⟩
    · exact Or.inl (congrArg Prod.snd heq)
    · exact Or.inl (congrArg Prod.snd heq)
    · exact Or.inr ⟨plan, hplan, congrArg Prod.snd heq⟩

variable {s next : Store} {id other : AccountId} {username : String} {avatar : Int32}

theorem eq_of_insertAccount (h : s.insertAccount id username avatar = .ok next) :
    next = { s with accounts := s.accounts.insert id { username, avatar } } := by
  unfold insertAccount at h
  split at h
  · cases h
  · split at h <;> cases h
    rfl

theorem eq_of_deleteAccount (h : s.deleteAccount id = .ok next) :
    ∃ account : Account, next =
      { s with accounts := s.accounts.insert id { account with deleted := true } } := by
  unfold deleteAccount at h
  split at h
  · cases h
  · split at h <;> cases h
    exact ⟨_, rfl⟩

/-- Who comes is live, whatever it was before. -/
theorem isLive_of_insertAccount (h : s.insertAccount id username avatar = .ok next) :
    next.isLive id = true := by
  rw [eq_of_insertAccount h]
  simp [isLive]

theorem isLive_of_deleteAccount (h : s.deleteAccount id = .ok next) :
    next.isLive id = false := by
  obtain ⟨account, rfl⟩ := eq_of_deleteAccount h
  simp [isLive]

end Store

namespace Service

variable {t : Transition} {p : DirectedPair}

theorem perform_store (now : Instant) (policy : Policy) (s : Store) (t : Transition) :
    (perform (.memory now) policy s t).2 = (s.mutatePair now t.pair (t.plan policy)).2 := rfl

@[simp] theorem accounts_perform (now : Instant) (policy : Policy) (s : Store) (t : Transition) :
    (perform (.memory now) policy s t).2.accounts = s.accounts := by
  rw [perform_store]
  rcases s.mutatePair_store now t.pair (t.plan policy) with h | ⟨plan, -, h⟩
  · rw [h]
  · rw [h]
    rfl

@[simp] theorem poisoned_perform (now : Instant) (policy : Policy) (s : Store) (t : Transition) :
    (perform (.memory now) policy s t).2.poisoned = s.poisoned := by
  rw [perform_store]
  rcases s.mutatePair_store now t.pair (t.plan policy) with h | ⟨plan, -, h⟩
  · rw [h]
  · rw [h]
    rfl

/-- A transition that is refused leaves the store as it is. -/
theorem perform_error_store {now : Instant} {policy : Policy} {s : Store} {t : Transition}
    {e : RelationError} (h : (perform (.memory now) policy s t).1.value = .error e) :
    (perform (.memory now) policy s t).2 = s := by
  have hresult : (s.mutatePair now t.pair (t.plan policy)).1.result.map (fun _ => ()) =
      .error e := h
  rw [perform_store]
  cases hs : s.poisoned with
  | true => simp [Store.mutatePair, hs]
  | false =>
    rcases s.mutatePair_cases hs now t.pair (t.plan policy) with
      ⟨e', -, heq⟩ | ⟨plan, id, -, -, heq⟩ | ⟨plan, -, -, heq⟩
    · rw [heq]
    · rw [heq]
    · rw [heq] at hresult
      cases hresult

/-- A transition between other accounts leaves a row as it is. -/
theorem get?_perform (h : t.isBetween p = false) (now : Instant) (policy : Policy) (s : Store) :
    (perform (.memory now) policy s t).2.rows.get? p = s.rows.get? p := by
  rw [perform_store]
  rcases s.mutatePair_store now t.pair (t.plan policy) with hsame | ⟨plan, hplan, hwritten⟩
  · rw [hsame]
  · rw [hwritten]
    refine Store.get?_writeAll_of_ne fun w hw hrow => ?_
    have hbetween : t.isBetween w.row = true := by
      rcases Transition.row_of_mem_plan hplan hw with e | e <;> simp [e]
    rw [hrow, h] at hbetween
    cases hbetween

theorem status?_perform (h : t.isBetween p = false) (now : Instant) (policy : Policy)
    (s : Store) : (perform (.memory now) policy s t).2.status? p = s.status? p :=
  congrArg (Option.map Row.status) (get?_perform h now policy s)

/-- A transition between other accounts leaves both rows of a pair as they are. -/
theorem snapshot_perform (h : t.isBetween p = false) (now : Instant) (policy : Policy)
    (s : Store) : (perform (.memory now) policy s t).2.snapshot p = s.snapshot p := by
  have h' : t.isBetween p.reversed = false := (Transition.isBetween_reversed t p).trans h
  rw [Store.snapshot_eq, Store.snapshot_eq, status?_perform h, status?_perform h']

namespace Step

variable {step : Step} {policy : Policy} {now : Instant} {s : Store} {x : Standing}

/-- The step is a transition between the two accounts of the pair. -/
def isOn (p : DirectedPair) : Step → Bool
  | .call (.transition t) => t.isBetween p
  | .call (.friends _) | .insertAccount .. | .deleteAccount _ => false

@[simp] theorem isOn_reversed (p : DirectedPair) (step : Step) :
    step.isOn p.reversed = step.isOn p := by
  cases step with
  | call c =>
    cases c with
    | transition t => exact Transition.isBetween_reversed t p
    | friends _ => rfl
  | insertAccount _ _ _ => rfl
  | deleteAccount _ => rfl

theorem isOn_iff : step.isOn p = true ↔ ∃ t, step = .call (.transition t) ∧ t.isBetween p := by
  cases step with
  | call c => cases c <;> simp [isOn]
  | insertAccount _ _ _ => simp [isOn]
  | deleteAccount _ => simp [isOn]

theorem carryOut_transition (policy : Policy) (now : Instant) (s : Store) (t : Transition) :
    carryOut policy now s (.call (.transition t)) =
      (⟨(perform (.memory now) policy s t).1.value.map fun _ => [],
        (perform (.memory now) policy s t).1.log⟩, (perform (.memory now) policy s t).2) := rfl

/-- What is no transition between the accounts of a row leaves it as it is. -/
theorem get?_carryOut (h : step.isOn p = false) (policy : Policy) (now : Instant) (s : Store) :
    (step.carryOut policy now s).2.rows.get? p = s.rows.get? p := by
  cases step with
  | call c =>
    cases c with
    | transition t => exact get?_perform h now policy s
    | friends owner =>
      have hsame : (Service.call (.memory now) policy s (.friends owner)).2 = s :=
        friends_memory_store now policy s owner
      simp only [carryOut, hsame]
  | insertAccount id username avatar =>
    have hrows := (changed_insertAccount s id username avatar).1
    simp only [carryOut, hrows]
  | deleteAccount id =>
    have hrows := (changed_deleteAccount s id).1
    simp only [carryOut, hrows]

theorem snapshot_carryOut (h : step.isOn p = false) (policy : Policy) (now : Instant)
    (s : Store) : (step.carryOut policy now s).2.snapshot p = s.snapshot p := by
  have h' : step.isOn p.reversed = false := (isOn_reversed p step).trans h
  simp only [Store.snapshot, get?_carryOut h, get?_carryOut h']

/-- Only a transition between two accounts changes how they stand. -/
theorem stands_carryOut (h : step.isOn p = false) (hx : s.Stands p x) (policy : Policy)
    (now : Instant) : (step.carryOut policy now s).2.Stands p x :=
  (snapshot_carryOut h policy now s).trans hx

/-- The step is the coming or the going of the account. -/
def isAbout (id : AccountId) : Step → Bool
  | .insertAccount other _ _ | .deleteAccount other => other = id
  | .call _ => false

/-- Only its own coming and going changes an account. -/
theorem account_carryOut {id : AccountId} (h : step.isAbout id = false) (policy : Policy)
    (now : Instant) (s : Store) :
    (step.carryOut policy now s).2.accounts.get? id = s.accounts.get? id := by
  cases step with
  | call c =>
    cases c with
    | transition t =>
      have haccounts := accounts_perform now policy s t
      simp only [carryOut_transition, haccounts]
    | friends owner =>
      have hsame : (Service.call (.memory now) policy s (.friends owner)).2 = s :=
        friends_memory_store now policy s owner
      simp only [carryOut, hsame]
  | insertAccount other username avatar =>
    have hne : id ≠ other := fun e => by simp [isAbout, e] at h
    simp only [carryOut]
    cases hnext : s.insertAccount other username avatar with
    | error e => rfl
    | ok next =>
      rw [Store.eq_of_insertAccount hnext]
      exact Table.get?_insert_of_ne _ _ hne
  | deleteAccount other =>
    have hne : id ≠ other := fun e => by simp [isAbout, e] at h
    simp only [carryOut]
    cases hnext : s.deleteAccount other with
    | error e => rfl
    | ok next =>
      obtain ⟨account, rfl⟩ := Store.eq_of_deleteAccount hnext
      exact Table.get?_insert_of_ne _ _ hne

/-- Only its own coming and going changes whether an account is live. -/
theorem isLive_carryOut {id : AccountId} (h : step.isAbout id = false) (policy : Policy)
    (now : Instant) (s : Store) : (step.carryOut policy now s).2.isLive id = s.isLive id := by
  simp only [Store.isLive, account_carryOut h]

/-- Who is live stays so until it goes. -/
theorem isLive_of_ne_deleteAccount {id : AccountId} (hid : s.isLive id = true)
    (hstep : step ≠ .deleteAccount id) (policy : Policy) (now : Instant) :
    (step.carryOut policy now s).2.isLive id = true := by
  cases habout : step.isAbout id with
  | false => exact (isLive_carryOut habout policy now s).trans hid
  | true =>
    cases step with
    | call _ => cases habout
    | insertAccount other username avatar =>
      obtain rfl : other = id := by simpa [isAbout] using habout
      simp only [carryOut]
      cases hnext : s.insertAccount other username avatar with
      | error e => exact hid
      | ok next => exact Store.isLive_of_insertAccount hnext
    | deleteAccount other =>
      obtain rfl : other = id := by simpa [isAbout] using habout
      exact absurd rfl hstep

/-- What is no transition tells nothing. -/
theorem log_carryOut (h : ∀ t, step ≠ .call (.transition t)) :
    (step.carryOut policy now s).1.log = [] := by
  cases step with
  | call c =>
    cases c with
    | transition t => exact absurd rfl (h t)
    | friends _ => rfl
  | insertAccount id username avatar =>
    simp only [carryOut, changed]
    split <;> rfl
  | deleteAccount id =>
    simp only [carryOut, changed]
    split <;> rfl

end Step
end Service
end Friendship
