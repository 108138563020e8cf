import Friendship.Proofs.Account.TextOrder
import Friendship.Proofs.Service.Coherence
import Friendship.Proofs.Store.Listing

/-!
# Rows and lists in the order of texts

Ids are in the order of their texts (`compare_eq_lt_iff_text`), so the rows of a store come in the
order of the texts of their owners and counterparties, and entries of one username in a friend list
in the order of the texts of their ids: `ordered_by_text`. A store that is out of use tells no rows.
-/
namespace Friendship

/-- One id is below another one if its text is, byte by byte. -/
theorem AccountId.compare_eq_lt_iff_text {a b : AccountId} :
    compare a b = .lt ↔ nameBytes a.text < nameBytes b.text := by
  rw [← compare_text, ← compare_bytes_eq_lt_iff]
  rfl

namespace DirectedPair

/-- The text of the owner of a row is below that of the other one, or they have one owner and the
text of the counterparty is below that of the other one. -/
def TextBefore (p q : DirectedPair) : Prop :=
  nameBytes p.first.text < nameBytes q.first.text ∨
    p.first = q.first ∧ nameBytes p.second.text < nameBytes q.second.text

theorem compare_eq_lt_iff_textBefore {p q : DirectedPair} :
    compare p q = .lt ↔ p.TextBefore q := by
  rw [compare_def, Ordering.then_eq_lt, AccountId.compare_eq_lt_iff_text,
    AccountId.compare_eq_lt_iff_text, Std.compare_eq_iff_eq]
  rfl

end DirectedPair

/-- An entry stands above another one by its username downwards, then by the text of its id
upwards. -/
def Friend.TextBefore (x y : Friend) : Prop :=
  nameBytes y.username < nameBytes x.username ∨
    x.username = y.username ∧ (x.id = y.id ∨ nameBytes x.id.text < nameBytes y.id.text)

theorem Friend.textBefore_of_precedes {x y : Friend} (h : x.precedes y = true) :
    x.TextBefore y := by
  by_cases hid : x.id = y.id
  · unfold precedes at h
    cases hxy : x.compareListed y with
    | lt =>
      rcases compareListed_eq_lt_iff.1 hxy with hname | ⟨hname, -⟩
      · exact Or.inl hname
      · exact Or.inr ⟨hname, Or.inl hid⟩
    | eq =>
      have hname := Std.compare_eq_iff_eq.1 (Ordering.then_eq_eq.1 hxy).1
      exact Or.inr ⟨(nameBytes_inj.1 hname).symm, Or.inl hid⟩
    | gt =>
      rw [hxy] at h
      cases h
  · rcases before_of_precedes h hid with hname | ⟨hname, hlt⟩
    · exact Or.inl hname
    · exact Or.inr ⟨hname, Or.inr (AccountId.compare_eq_lt_iff_text.1 hlt)⟩

namespace Store

variable {s : Store} {list : List (DirectedPair × Status)}

/-- A list tells every row of a store once, in the order of texts. -/
structure IsRowList (s : Store) (list : List (DirectedPair × Status)) : Prop where
  told_iff : ∀ p status, (p, status) ∈ list ↔ (s.rows.get? p).map Row.status = some status
  told_once : (list.map Prod.fst).Nodup
  ordered : list.Pairwise fun x y => x.1.TextBefore y.1

theorem isRowList (s : Store) :
    s.IsRowList (s.rows.toList.map fun (p, row) => (p, row.status)) where
  told_iff p status := by
    simp only [List.mem_map, Prod.exists, Prod.mk.injEq, Option.map_eq_some_iff]
    constructor
    · rintro ⟨q, row, hrow, rfl, hstatus⟩
      exact ⟨row, Table.mem_toList_iff.1 hrow, hstatus⟩
    · rintro ⟨row, hrow, hstatus⟩
      exact ⟨p, row, Table.mem_toList_iff.2 hrow, rfl, hstatus⟩
  told_once := by
    rw [List.map_map]
    refine List.pairwise_map.2 (s.rows.ascending.imp fun {e f} hlt heq => ?_)
    have hkey : e.1 = f.1 := heq
    simp [hkey] at hlt
  ordered :=
    List.pairwise_map.2 (s.rows.ascending.imp DirectedPair.compare_eq_lt_iff_textBefore.1)

theorem listRows_of_inUse (h : s.poisoned = false) :
    s.listRows = .ok (s.rows.toList.map fun (p, row) => (p, row.status)) := by
  simp [listRows, h]

theorem pairwise_textBefore_of_listVisible {owner : AccountId} {list : List Friend}
    (h : s.listVisible owner = .ok list) : list.Pairwise Friend.TextBefore := by
  unfold listVisible at h
  split at h
  · cases h
  · split at h
    · cases h
      exact (Friend.pairwise_precedes _).imp Friend.textBefore_of_precedes
    · cases h
      exact .nil

/-- Two ids compare as their texts do, byte by byte. So a store that is in use tells each of its
rows once, in strictly ascending order of the texts of owner and counterparty, and one that is out
of use tells of none; and entries of one username in a friend list are in ascending order of the
texts of their ids. -/
theorem ordered_by_text :
    (∀ a b : AccountId, (nameBytes a.text).length = 36 ∧
      compare a b = compare (nameBytes a.text) (nameBytes b.text)) ∧
    (∀ s : Store, s.poisoned = false → ∃ list, s.listRows = .ok list ∧ s.IsRowList list) ∧
    (∀ s : Store, s.poisoned = true → s.listRows = .error (.internal .poisoned)) ∧
    ∀ (s : Store) (owner : AccountId) (list : List Friend), s.listVisible owner = .ok list →
      list.Pairwise Friend.TextBefore := by
  refine ⟨fun a b => ⟨a.length_toUTF8_text, (AccountId.compare_text a b).symm⟩, fun s hs => ?_,
    fun s hs => ?_, fun s owner list => pairwise_textBefore_of_listVisible⟩
  · exact ⟨_, listRows_of_inUse hs, s.isRowList⟩
  · simp [listRows, hs]

/-- Alice's request to Bob is the one row that is told. -/
theorem ordered_by_text_request :
    let s := Sample.request.store {} .empty
    s.poisoned = false ∧ s.poison.poisoned = true ∧
    s.poison.listRows = .error (.internal .poisoned) ∧
    (∃ list, s.listRows = .ok list ∧ (⟨Sample.alice, Sample.bob⟩, .pending) ∈ list) ∧
    ∃ list, s.listVisible Sample.bob = .ok list ∧ list.Pairwise Friend.TextBefore := by
  intro s
  obtain ⟨-, htold, huntold, hlisted⟩ := ordered_by_text
  have hs : s.poisoned = false := by decide +kernel
  obtain ⟨list, hlist, hrows⟩ := htold s hs
  have hrow : (s.rows.get? ⟨Sample.alice, Sample.bob⟩).map Row.status = some .pending := by
    decide +kernel
  refine ⟨hs, rfl, huntold s.poison rfl, ⟨list, hlist, (hrows.told_iff _ _).2 hrow⟩, ?_⟩
  have hbob : s.isLive Sample.bob = true := by decide +kernel
  have hfriends : s.listVisible Sample.bob =
      .ok ((s.entries Sample.bob).mergeSort Friend.precedes) := by
    simp only [listVisible, hs, hbob, Bool.false_eq_true, if_false, if_true]
  exact ⟨_, hfriends, hlisted s Sample.bob _ hfriends⟩

/-- A task that failed while it held the store leaves a request that is told no more. -/
theorem rows_untold_out_of_use :
    ¬ ∀ s : Store, ∃ list, s.listRows = .ok list ∧ s.IsRowList list := by
  intro h
  obtain ⟨list, hlist, -⟩ := h (Sample.request.store {} .empty).poison
  cases hlist

end Store
end Friendship
