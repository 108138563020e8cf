import Friendship.Store.Listing

/-!
# What a friend list shows

Which row shows an account to another one is said without going through the rows: `Shows`. The
entries of a list are the live accounts that are shown to its owner, each with what its account
and its row tell (`mem_entries_iff`), and the list has them in the order of their usernames, those
of one username in the order of their ids (`before_of_precedes`, `pairwise_precedes`).
-/
namespace Friendship

/-- Texts of the same bytes are the same. -/
theorem nameBytes_inj {a b : String} : nameBytes a = nameBytes b ↔ a = b := by
  constructor
  · intro h
    have hdata : a.toByteArray.data = b.toByteArray.data := Array.toList_inj.1 h
    exact String.toByteArray_inj.1 (ByteArray.ext_iff.2 hdata)
  · rintro rfl
    rfl

/-- Bytes are compared one by one, the first difference deciding. -/
theorem compare_bytes_eq_lt_iff {a b : List UInt8} : compare a b = .lt ↔ a < b := by
  change List.compareLex compare a b = .lt ↔ a < b
  induction a generalizing b with
  | nil => cases b <;> simp [List.compareLex]
  | cons x a ih =>
    cases b with
    | nil => simp [List.compareLex]
    | cons y b =>
      rw [List.compareLex_cons_cons, Ordering.then_eq_lt, ih, List.cons_lt_cons_iff,
        Std.compare_eq_lt, Std.compare_eq_iff_eq]

namespace Friend

/-- The entry stands above the other one: its username is the greater one, byte by byte, or the
usernames are the same and its id is the less. -/
def Before (x y : Friend) : Prop :=
  nameBytes y.username < nameBytes x.username ∨
    x.username = y.username ∧ compare x.id y.id = .lt

theorem compareListed_eq_lt_iff {x y : Friend} : x.compareListed y = .lt ↔ x.Before y := by
  rw [compareListed, Ordering.then_eq_lt, compare_bytes_eq_lt_iff, Std.compare_eq_iff_eq,
    nameBytes_inj, eq_comm (a := y.username)]
  rfl

/-- The order is the lexicographic one of usernames downwards and ids upwards. -/
instance : Std.TransCmp compareListed :=
  inferInstanceAs (Std.TransCmp (compareLex
    (fun x y => compareOn (fun e : Friend => nameBytes e.username) y x) (compareOn Friend.id)))

/-- Entries of different accounts do not share a place. -/
theorem before_of_precedes {x y : Friend} (h : x.precedes y = true) (hid : x.id ≠ y.id) :
    x.Before y := by
  rw [← compareListed_eq_lt_iff]
  unfold precedes at h
  cases hxy : x.compareListed y with
  | lt => rfl
  | eq =>
    rw [compareListed, Ordering.then_eq_eq] at hxy
    exact absurd (Std.compare_eq_iff_eq.1 hxy.2) hid
  | gt =>
    rw [hxy] at h
    cases h

theorem pairwise_precedes (list : List Friend) :
    (list.mergeSort precedes).Pairwise fun x y => x.precedes y = true := by
  refine List.pairwise_mergeSort ?_ ?_ list
  · intro x y z hxy hyz
    exact Std.TransCmp.isLE_trans hxy hyz
  · intro x y
    have hswap : y.compareListed x = (x.compareListed y).swap := Std.OrientedCmp.eq_swap
    unfold precedes
    rw [hswap]
    cases x.compareListed y <;> rfl

end Friend

namespace DirectedPair

/-- A row shows an account to the owner of a list in one of two ways. -/
theorem shownTo?_eq_some_iff {p : DirectedPair} {owner id : AccountId} {status : Status} :
    p.shownTo? owner status = some id ↔
      p = ⟨owner, id⟩ ∧ (status = .accepted ∨ status = .blocked) ∨
        p = ⟨id, owner⟩ ∧ status = .pending := by
  obtain ⟨first, second⟩ := p
  cases status <;> simp [shownTo?, and_comm]

end DirectedPair

namespace Store

variable {s : Store} {owner id : AccountId} {row : Row}

/-- A row shows an account to the owner of a list: one from the owner that is accepted or blocked,
or a request to the owner. -/
def Shows (s : Store) (owner id : AccountId) (row : Row) : Prop :=
  s.rows.get? ⟨owner, id⟩ = some row ∧ (row.status = .accepted ∨ row.status = .blocked) ∨
    s.rows.get? ⟨id, owner⟩ = some row ∧ row.status = .pending

theorem isLive_iff :
    s.isLive id = true ↔
      ∃ account, s.accounts.get? id = some account ∧ account.deleted = false := by
  unfold isLive
  cases s.accounts.get? id <;> simp

/-- The entry of an account: its name and avatar, and what a row tells. -/
def entryOf (id : AccountId) (account : Account) (row : Row) : Friend :=
  ⟨id, account.username, account.avatar, row.status, row.since⟩

theorem entry?_eq_some_iff {p : DirectedPair} {e : Friend} :
    s.entry? owner p row = some e ↔
      p.shownTo? owner row.status = some e.id ∧
        ∃ account, s.accounts.get? e.id = some account ∧ account.deleted = false ∧
          e = entryOf e.id account row := by
  unfold entry?
  simp only [bind, Option.bind_eq_some_iff]
  constructor
  · rintro ⟨id, hid, account, haccount, h⟩
    cases hlive : account.deleted with
    | true => simp [hlive] at h
    | false =>
      simp only [hlive, Bool.false_eq_true, if_false, Option.some.injEq] at h
      subst h
      exact ⟨hid, account, haccount, hlive, rfl⟩
  · rintro ⟨hid, account, haccount, hlive, he⟩
    refine ⟨e.id, hid, account, haccount, ?_⟩
    rw [he]
    simp [hlive, entryOf]

/-- A list has an entry for each live account that a row shows to its owner. -/
theorem mem_entries_iff {e : Friend} :
    e ∈ s.entries owner ↔
      ∃ account row, s.accounts.get? e.id = some account ∧ account.deleted = false ∧
        s.Shows owner e.id row ∧ e = entryOf e.id account row := by
  simp only [entries, List.mem_filterMap, Prod.exists, Table.mem_toList_iff, entry?_eq_some_iff,
    DirectedPair.shownTo?_eq_some_iff]
  constructor
  · rintro ⟨p, row, hrow, hshown, account, haccount, hlive, he⟩
    refine ⟨account, row, haccount, hlive, ?_, he⟩
    rcases hshown with ⟨rfl, hstatus⟩ | ⟨rfl, hstatus⟩
    · exact Or.inl ⟨hrow, hstatus⟩
    · exact Or.inr ⟨hrow, hstatus⟩
  · rintro ⟨account, row, haccount, hlive, ⟨hrow, hstatus⟩ | ⟨hrow, hstatus⟩, he⟩
    · exact ⟨_, row, hrow, Or.inl ⟨rfl, hstatus⟩, account, haccount, hlive, he⟩
    · exact ⟨_, row, hrow, Or.inr ⟨rfl, hstatus⟩, account, haccount, hlive, he⟩

/-- Where no account is shown by two rows, no two entries of a list have the same id. -/
theorem pairwise_id_entries
    (h : ∀ id row row', s.Shows owner id row → s.Shows owner id row' → row = row') :
    (s.entries owner).Pairwise fun x y => x.id ≠ y.id := by
  have hkeys : s.rows.toList.Pairwise fun e f => e.1 ≠ f.1 :=
    s.rows.ascending.imp fun {e f} hlt heq => by simp [heq] at hlt
  refine List.pairwise_filterMap.2 (hkeys.imp_of_mem ?_)
  rintro ⟨p, row⟩ ⟨q, row'⟩ hp hq hne x hx y hy hid
  have hrow := Table.mem_toList_iff.1 hp
  have hrow' := Table.mem_toList_iff.1 hq
  have hshown := DirectedPair.shownTo?_eq_some_iff.1 (entry?_eq_some_iff.1 hx).1
  have hshown' := DirectedPair.shownTo?_eq_some_iff.1 (entry?_eq_some_iff.1 hy).1
  rw [hid] at hshown
  -- Two rows of one owner and one other account are each other's reverse, one of them a request.
  rcases hshown with ⟨rfl, hstatus⟩ | ⟨rfl, hstatus⟩ <;>
    rcases hshown' with ⟨rfl, hstatus'⟩ | ⟨rfl, hstatus'⟩
  · exact hne rfl
  · obtain rfl := h y.id row row' (Or.inl ⟨hrow, hstatus⟩) (Or.inr ⟨hrow', hstatus'⟩)
    simp [hstatus'] at hstatus
  · obtain rfl := h y.id row row' (Or.inr ⟨hrow, hstatus⟩) (Or.inl ⟨hrow', hstatus'⟩)
    simp [hstatus] at hstatus'
  · exact hne rfl

end Store
end Friendship
