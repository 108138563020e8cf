import Friendship.Proofs.Service.Coherence
import Friendship.Proofs.Store.Listing

/-!
# Friend lists of reachable stores

In a coherent store one row at most shows an account to another one, so a friend list has one
entry for each account that is shown: `listVisible_of_coherent`. What the service makes of the list
is told by `friends_memory`; both together are `friends_exact`.
-/
namespace Friendship

namespace Store

variable {s : Store} {owner : AccountId} {list : List Friend}

/-- A list is the friend list of a live account. -/
structure IsFriendList (s : Store) (owner : AccountId) (list : List Friend) : Prop where
  /-- An account has an entry if it is live and a row shows it. -/
  listed_iff : ∀ id, (∃ e ∈ list, e.id = id) ↔ s.isLive id = true ∧ ∃ row, s.Shows owner id row
  /-- An entry tells the username and avatar of its account, and the status and time of the row that
  shows it. -/
  entry : ∀ e ∈ list, ∃ account row, s.accounts.get? e.id = some account ∧
    s.Shows owner e.id row ∧ e = entryOf e.id account row
  /-- No account is shown by two rows. -/
  shown_once : ∀ id row row', s.Shows owner id row → s.Shows owner id row' → row = row'
  /-- No account has two entries. -/
  listed_once : list.Pairwise fun x y => x.id ≠ y.id
  ordered : list.Pairwise Friend.Before

/-- An account that is a friend or blocked is shown by no request. -/
theorem Coherent.shown_once (h : s.Coherent) {id : AccountId} {row row' : Row}
    (hrow : s.Shows owner id row) (hrow' : s.Shows owner id row') : row = row' := by
  obtain ⟨x, hx⟩ := h.exists_stands ⟨owner, id⟩
  have hf : (s.rows.get? ⟨owner, id⟩).map Row.status = x.snapshot.forward := hx.forward
  have hb : (s.rows.get? ⟨id, owner⟩).map Row.status = x.snapshot.backward := hx.backward
  rcases hrow with ⟨hrow, hstatus⟩ | ⟨hrow, hstatus⟩ <;>
    rcases hrow' with ⟨hrow', hstatus'⟩ | ⟨hrow', hstatus'⟩
  · exact Option.some.inj (hrow.symm.trans hrow')
  · rw [hrow] at hf
    rw [hrow'] at hb
    cases x <;> simp_all [Standing.snapshot]
  · rw [hrow'] at hf
    rw [hrow] at hb
    cases x <;> simp_all [Standing.snapshot]
  · exact Option.some.inj (hrow.symm.trans hrow')

theorem Coherent.pairwise_id_mergeSort (h : s.Coherent) (owner : AccountId) :
    ((s.entries owner).mergeSort Friend.precedes).Pairwise fun x y => x.id ≠ y.id :=
  (List.mergeSort_perm _ _).symm.pairwise (pairwise_id_entries fun _ _ _ => h.shown_once) Ne.symm

/-- The entries of a live account in order are its friend list. -/
theorem Coherent.isFriendList (h : s.Coherent) (owner : AccountId) :
    s.IsFriendList owner ((s.entries owner).mergeSort Friend.precedes) where
  listed_iff id := by
    simp only [List.mem_mergeSort, mem_entries_iff, isLive_iff]
    constructor
    · rintro ⟨e, ⟨account, row, haccount, hlive, hshown, -⟩, rfl⟩
      exact ⟨⟨account, haccount, hlive⟩, row, hshown⟩
    · rintro ⟨⟨account, haccount, hlive⟩, row, hshown⟩
      exact ⟨entryOf id account row, ⟨account, row, haccount, hlive, hshown, rfl⟩, rfl⟩
  entry e he := by
    obtain ⟨account, row, haccount, -, hshown, heq⟩ := mem_entries_iff.1 (List.mem_mergeSort.1 he)
    exact ⟨account, row, haccount, hshown, heq⟩
  shown_once _ _ _ := h.shown_once
  listed_once := h.pairwise_id_mergeSort owner
  ordered :=
    (Friend.pairwise_precedes _).imp₂ (fun _ _ => Friend.before_of_precedes)
      (h.pairwise_id_mergeSort owner)

/-- The list of a coherent store is empty for an account that is not live, else its friend list. -/
theorem Coherent.listVisible (h : s.Coherent) (owner : AccountId) :
    ∃ list, s.listVisible owner = .ok list ∧
      if s.isLive owner then s.IsFriendList owner list else list = [] := by
  unfold Store.listVisible
  rw [if_neg (by simp [h.inUse])]
  split
  · exact ⟨_, rfl, h.isFriendList owner⟩
  · exact ⟨[], rfl, rfl⟩

end Store

namespace Service

variable {s : Store} {owner : AccountId} {list : List Friend}

/-- What the service answers when the store in memory has listed. -/
theorem friends_memory (hs : s.poisoned = false) (hlist : s.listVisible owner = .ok list)
    (now : Instant) (policy : Policy) :
    friends (.memory now) policy s owner =
      (if list ≠ [] then .ok list
        else if policy.emptyListIsNotFound then .error (.friendsNotFound owner)
        else if s.isLive owner then .ok []
        else .error (.userNotFound owner), s) := by
  have hexists : s.accountExists owner = .ok (s.isLive owner) := by
    simp [Store.accountExists, hs]
  have hlisted := Backend.memory_listVisible hlist now
  cases list with
  | cons entry rest => exact friends_of_cons policy hlisted
  | nil =>
    rw [friends_of_nil policy hlisted]
    simp only [Backend.memory, hexists]
    cases policy.emptyListIsNotFound <;> cases s.isLive owner <;> rfl

/-- A list that the service answers with is that of the store. -/
theorem listVisible_of_friends (hs : s.Coherent) {now : Instant} {policy : Policy}
    (h : (friends (.memory now) policy s owner).1 = .ok list) :
    s.listVisible owner = .ok list := by
  obtain ⟨seen, hseen, -⟩ := hs.listVisible owner
  rw [friends_memory hs.inUse hseen] at h
  have hsame : seen = list := by
    by_cases hnil : seen = []
    · -- Where there is nothing to list, only an empty list can be the answer.
      subst hnil
      cases hsplit : policy.emptyListIsNotFound <;> cases hlive : s.isLive owner <;>
        simp_all
    · simpa [hnil] using h
  rw [hseen, hsame]

/-- The list of a reachable store shows a live account exactly its friends, those it has blocked and
those who asked it, once each and in order; to others it shows nobody. The service answers with
that list, unless it is empty: then the answer depends on the policy and on whether the account is
live. -/
theorem friends_exact {past : Policy} (h : s.Reachable past) (owner : AccountId) :
    ∃ list, s.listVisible owner = .ok list ∧
      (if s.isLive owner then s.IsFriendList owner list else list = []) ∧
      ∀ (policy : Policy) (now : Instant),
        friends (.memory now) policy s owner =
          (if list ≠ [] then .ok list
            else if policy.emptyListIsNotFound then .error (.friendsNotFound owner)
            else if s.isLive owner then .ok []
            else .error (.userNotFound owner), s) := by
  obtain ⟨list, hlist, hshape⟩ := h.coherent.listVisible owner
  refine ⟨list, hlist, hshape, fun policy now => ?_⟩
  exact friends_memory h.coherent.inUse hlist now policy

/-- Bob sees that Alice has asked him. -/
theorem friends_exact_request :
    (Sample.request.store {} .empty).Reachable {} ∧
    ∃ list, (Sample.request.store {} .empty).listVisible Sample.bob = .ok list ∧
      ∃ e ∈ list, e.id = Sample.alice := by
  have h : (Sample.request.store {} .empty).Reachable {} := Store.Reachable.empty.after _
  refine ⟨h, ?_⟩
  obtain ⟨list, hlist, hshape, -⟩ := friends_exact h Sample.bob
  have hbob : (Sample.request.store {} .empty).isLive Sample.bob = true := by decide +kernel
  have halice : (Sample.request.store {} .empty).isLive Sample.alice = true := by decide +kernel
  have hrow : (Sample.request.store {} .empty).rows.get? ⟨Sample.alice, Sample.bob⟩ =
      some ⟨.pending, .ofSecond 2⟩ := by decide +kernel
  rw [if_pos hbob] at hshape
  exact ⟨list, hlist, (hshape.listed_iff _).2 ⟨halice, _, Or.inr ⟨hrow, rfl⟩⟩⟩

end Service
end Friendship
