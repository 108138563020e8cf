import Friendship.Proofs.Database.Agreement
import Friendship.Proofs.Service.FriendList
import Mathlib.Data.List.Basic

/-!
# Friend lists of a server and of a store in memory

The statement for a friend list joins an account with the rows that it is an end of and each of them
with its other end. A row has one other end, so the join has an entry where the store in memory has
one: `friendJoin_eq_map`. Where no two entries are of one account, their order leaves one list only,
and both stores come to the same: `listVisible_agrees`.
-/
namespace Friendship

namespace Database

/-- The row that tells an entry of a friend list. -/
def FriendRow.ofFriend (e : Friend) : FriendRow :=
  ⟨e.id, e.username, e.avatar, e.status.text, e.since⟩

theorem readFriend_ofFriend (e : Friend) : readFriend (.ofFriend e) = .ok e := by
  simp [readFriend, FriendRow.ofFriend, bind, Except.bind, pure, Except.pure]

theorem readFriends_map_ofFriend (list : List Friend) :
    readFriends (list.map FriendRow.ofFriend) = .ok list := by
  induction list with
  | nil => rfl
  | cons e list ih =>
    unfold readFriends at ih ⊢
    simp only [List.map_cons, List.mapM_cons, readFriend_ofFriend, ih]
    rfl

variable {s : Store} {owner : AccountId}

/-- A row joins an account with one that it shows to it, and with no other one. -/
theorem joins_iff {p : DirectedPair} {id : AccountId} {status : Status} :
    ((p.first = owner ∨ p.second = owner) ∧ id = (if p.first = owner then p.second else p.first) ∧
      (p.first = owner ∧ status ≠ .pending ∨ p.second = owner ∧ status = .pending)) ↔
    p.shownTo? owner status = some id := by
  by_cases hfirst : p.first = owner <;> by_cases hsecond : p.second = owner <;>
    cases status <;> simp [DirectedPair.shownTo?, hfirst, hsecond, eq_comm]

/-- The entry of an account for a row, if the row shows it and both accounts are live. -/
def joined? (owner : AccountId) (holder : AccountId × Account) (row : DirectedPair × Row)
    (other : AccountId × Account) : Option Friend :=
  if holder.1 = owner ∧ holder.2.deleted = false ∧ other.2.deleted = false ∧
      row.1.shownTo? owner row.2.status = some other.1 then
    some (Store.entryOf other.1 other.2 row.2)
  else none

theorem friendJoin_eq_joined? (s : Store) (owner : AccountId) :
    friendJoin s owner = s.accounts.toList.flatMap fun holder => s.rows.toList.flatMap fun row =>
      s.accounts.toList.filterMap fun other =>
        (joined? owner holder row other).map FriendRow.ofFriend := by
  refine List.flatMap_congr fun ⟨o, holder⟩ _ => List.flatMap_congr fun ⟨p, row⟩ _ =>
    List.filterMap_congr fun ⟨a, account⟩ _ => ?_
  unfold joined?
  rw [apply_ite (Option.map FriendRow.ofFriend)]
  refine if_congr ?_ rfl rfl
  simp only [Bool.not_eq_true', ← joins_iff]
  constructor
  · rintro ⟨hjoined, hother, rfl, hholder, haccount, hshown⟩
    exact ⟨rfl, hholder, haccount, hjoined, hother, hshown⟩
  · rintro ⟨rfl, hholder, haccount, hjoined, hother, hshown⟩
    exact ⟨hjoined, hother, rfl, hholder, haccount, hshown⟩

/-- Of all accounts a row is joined with the one that it shows, as in memory. -/
theorem filterMap_joined? (s : Store) {holder : Account} (hlive : holder.deleted = false)
    (p : DirectedPair) (row : Row) :
    s.accounts.toList.filterMap (joined? owner (owner, holder) (p, row)) =
      (s.entry? owner p row).toList := by
  rw [List.filterMap_eq_flatMap_toList]
  cases hshown : p.shownTo? owner row.status with
  | none =>
    have hnone : ∀ other, joined? owner (owner, holder) (p, row) other = none := by
      simp [joined?, hshown]
    simp [hnone, Store.entry?, hshown]
  | some id =>
    rw [Table.flatMap_toList _ id]
    · cases haccount : s.accounts.get? id with
      | none => simp [Store.entry?, hshown, haccount]
      | some account =>
        cases hdeleted : account.deleted <;>
          simp [joined?, Store.entry?, Store.entryOf, hlive, hshown, haccount, hdeleted]
    · rintro ⟨a, account⟩ _ hne
      have hne' : id ≠ a := Ne.symm hne
      simp [joined?, hshown, hne']

/-- The join has the rows of the entries of a live account, and none for another one. -/
theorem friendJoin_eq_map (s : Store) (owner : AccountId) :
    friendJoin s owner =
      if s.isLive owner then (s.entries owner).map FriendRow.ofFriend else [] := by
  rw [friendJoin_eq_joined?, Table.flatMap_toList _ owner]
  · unfold Store.isLive Store.entries
    cases hholder : s.accounts.get? owner with
    | none => rfl
    | some holder =>
      cases hdeleted : holder.deleted with
      | true => simp [joined?, hdeleted]
      | false =>
        simp only [Option.elim, Option.any_some, hdeleted, Bool.not_false, if_true]
        rw [List.filterMap_eq_flatMap_toList, List.map_flatMap]
        refine List.flatMap_congr fun ⟨p, row⟩ _ => ?_
        rw [← List.map_filterMap, filterMap_joined? s hdeleted]
  · rintro ⟨o, holder⟩ _ hne
    have hne' : o ≠ owner := hne
    simp [joined?, hne']

/-- Entries of different accounts are in order in one way only, so a server has one answer. -/
theorem eq_map_of_isListing (h : s.Coherent) (hlive : s.isLive owner = true)
    {rows : List FriendRow} (hrows : IsListing s owner rows) :
    rows = ((s.entries owner).mergeSort Friend.precedes).map FriendRow.ofFriend := by
  obtain ⟨hperm, hordered⟩ := hrows
  rw [friendJoin_eq_map, if_pos hlive] at hperm
  have hids : ((s.entries owner).map Friend.id).Nodup :=
    List.pairwise_map.2 (Store.pairwise_id_entries fun _ _ _ => h.shown_once)
  have hsorted : (((s.entries owner).mergeSort Friend.precedes).map FriendRow.ofFriend).Pairwise
      fun x y => x.precedes y :=
    List.pairwise_map.2 (Friend.pairwise_precedes (s.entries owner))
  refine List.Perm.eq_of_pairwise ?_ hordered hsorted
    (hperm.trans ((List.mergeSort_perm _ _).map _).symm)
  intro x y hx hy hxy hyx
  obtain ⟨e, he, rfl⟩ := List.mem_map.1 (hperm.subset hx)
  obtain ⟨e', he', rfl⟩ := List.mem_map.1 hy
  have hsame : e.compareListed e' = .eq := Std.OrientedCmp.isLE_antisymm hxy hyx
  have hid : e.id = e'.id := Std.compare_eq_iff_eq.1 (Ordering.then_eq_eq.1 hsame).2
  rw [List.inj_on_of_nodup_map hids he (List.mem_mergeSort.1 he') hid]

theorem result_listVisible (manner : Manner) (s : Store) (owner : AccountId) :
    ((listVisible owner).run.outcome (Ideal.server manner) ⟨s, none⟩).1 =
      readFriends (manner.listing s owner) := by
  have hrows : (request .listFriends (.list owner)).run.outcome (Ideal.server manner) ⟨s, none⟩ =
      (.ok (manner.listing s owner), ⟨s, none⟩) := rfl
  unfold listVisible
  rw [Request.outcome_bind_ok hrows]
  cases readFriends (manner.listing s owner) <;> rfl

/-- Whatever rows a server answers that are the join in its order, they are read as the list of a
store in memory with the same tables: the same entries, each as often, in the same order. An account
that is not live has an empty list in both. -/
theorem listVisible_agrees {policy : Policy} (h : s.Reachable policy) (owner : AccountId) :
    ∃ list, s.listVisible owner = .ok list ∧ ∀ manner : Manner,
      ((listVisible owner).run.run (Ideal.server manner) ⟨s, none⟩).result = .ok list := by
  have hmemory : s.listVisible owner =
      if s.isLive owner then .ok ((s.entries owner).mergeSort Friend.precedes) else .ok [] := by
    simp [Store.listVisible, h.coherent.inUse]
  have hserver : ∀ manner : Manner,
      ((listVisible owner).run.run (Ideal.server manner) ⟨s, none⟩).result =
        readFriends (manner.listing s owner) := fun manner => result_listVisible manner s owner
  cases hlive : s.isLive owner with
  | true =>
    refine ⟨_, by rw [hmemory, hlive, if_pos rfl], fun manner => ?_⟩
    rw [hserver, eq_map_of_isListing h.coherent hlive (manner.isListing s owner),
      readFriends_map_ofFriend]
  | false =>
    refine ⟨[], by rw [hmemory, hlive, if_neg Bool.false_ne_true], fun manner => ?_⟩
    have hnone : manner.listing s owner = [] := by
      have hperm := (manner.isListing s owner).1
      rwa [friendJoin_eq_map, hlive, if_neg Bool.false_ne_true, List.perm_nil] at hperm
    rw [hserver, hnone]
    rfl

/-- The server and the store in memory both show Bob that Alice has asked him. -/
theorem listVisible_agrees_request :
    (Sample.request.store {} .empty).Reachable {} ∧
    ∃ list, (∃ e ∈ list, e.id = Sample.alice) ∧
      (Sample.request.store {} .empty).listVisible Sample.bob = .ok list ∧
      ((listVisible Sample.bob).run.run (Ideal.server Sample.manner)
        ⟨Sample.request.store {} .empty, none⟩).result = .ok list := by
  have h : (Sample.request.store {} .empty).Reachable {} := Store.Reachable.empty.after _
  refine ⟨h, ?_⟩
  obtain ⟨list, hlist, hserver⟩ := listVisible_agrees h Sample.bob
  refine ⟨list, ?_, hlist, hserver Sample.manner⟩
  obtain ⟨list', hlist', hshape⟩ := h.coherent.listVisible Sample.bob
  obtain rfl : list' = list := Except.ok.inj (hlist'.symm.trans hlist)
  have hbob : (Sample.request.store {} .empty).isLive Sample.bob = true := by decide +kernel
  have halice : (Sample.request.store {} .empty).isLive Sample.alice = true := by decide +kernel
  have hrow : (Sample.request.store {} .empty).rows.get? ⟨Sample.alice, Sample.bob⟩ =
      some ⟨.pending, .ofSecond 2⟩ := by decide +kernel
  rw [if_pos hbob] at hshape
  exact (hshape.listed_iff _).2 ⟨halice, _, Or.inr ⟨hrow, rfl⟩⟩

end Database
end Friendship
