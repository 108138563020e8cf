import Friendship.Proofs.Service.Steps
import Friendship.Proofs.Store.Listing

/-!
# The tables of a store fit together

A store is well-formed if both ends of every row have an account, deleted or not, and no two
accounts share a username. A row is only put between live accounts, an account is never removed, and
a username is checked before it is given, so every deed keeps this, whatever is planned and whatever
fails: `wellFormed_store`. What a friend list owes to it is said by `tables_fit`.
-/
namespace Friendship

namespace Table

variable {κ ν : Type} [Ord κ] [Std.TransOrd κ] [Std.LawfulEqOrd κ]

omit [Std.TransOrd κ] in
theorem mem_values_of_get? {t : Table κ ν} {key : κ} {value : ν} (h : t.get? key = some value) :
    value ∈ t.values :=
  List.mem_map.2 ⟨(key, value), mem_toList_of_get? h, rfl⟩

/-- What a key that was put in holds is the new value, any other key what it held before. -/
theorem get?_insert_eq_some_iff {t : Table κ ν} {key other : κ} {value value' : ν} :
    (t.insert key value).get? other = some value' ↔
      other = key ∧ value' = value ∨ other ≠ key ∧ t.get? other = some value' := by
  by_cases h : other = key
  · subst h
    simp [eq_comm]
  · simp [get?_insert_of_ne t value h, h]

end Table

namespace Store

variable {s : Store} {id : AccountId}

/-- There is an account with the id, be it live or deleted. -/
def HasAccount (s : Store) (id : AccountId) : Prop := ∃ account, s.accounts.get? id = some account

theorem hasAccount_of_isLive (h : s.isLive id = true) : s.HasAccount id := by
  obtain ⟨account, haccount, -⟩ := isLive_iff.1 h
  exact ⟨account, haccount⟩

/-- The two tables of a store fit together. -/
structure WellFormed (s : Store) : Prop where
  /-- A row is between accounts. -/
  ends : ∀ p row, s.rows.get? p = some row → s.HasAccount p.first ∧ s.HasAccount p.second
  /-- A username belongs to one account. -/
  usernames : ∀ id id' account account', s.accounts.get? id = some account →
    s.accounts.get? id' = some account' → account.username = account'.username → id = id'

namespace WellFormed

theorem empty : WellFormed .empty where
  ends _ _ h := by cases h
  usernames _ _ _ _ h := by cases h

/-- A plan that relates live accounts only keeps the tables together. -/
theorem writeAll (h : s.WellFormed) {plan : List Write} (hlive : s.missingEnd? plan = none)
    (now : Instant) : (s.writeAll now plan).WellFormed where
  ends p row hrow := by
    rw [get?_writeAll] at hrow
    cases hlast : Write.last? plan p with
    | none =>
      rw [hlast] at hrow
      exact h.ends p row hrow
    | some w =>
      obtain ⟨hw, hp⟩ := Write.mem_of_last? hlast
      rw [hlast] at hrow
      cases w with
      | delete q => cases hrow
      | put q status =>
        obtain rfl : q = p := hp
        have hends := missingEnd?_eq_none_iff.1 hlive _ hw
        exact ⟨hasAccount_of_isLive (hends q.first (by simp [Write.ends])),
          hasAccount_of_isLive (hends q.second (by simp [Write.ends]))⟩
  usernames := h.usernames

theorem mutatePair (h : s.WellFormed) (now : Instant) (p : DirectedPair) (planner : Planner) :
    (s.mutatePair now p planner).2.WellFormed := by
  cases hs : s.poisoned with
  | true =>
    simp only [Store.mutatePair, hs, if_true]
    exact h
  | false =>
    rcases mutatePair_cases hs now p planner with
      ⟨e, -, heq⟩ | ⟨plan, id, -, -, heq⟩ | ⟨plan, -, hlive, heq⟩
    · rw [heq]; exact h
    · rw [heq]; exact h
    · rw [heq]; exact h.writeAll hlive now

/-- An account may come in the place of another one, or change, if nobody else has its username. -/
theorem insert (h : s.WellFormed) {account : Account}
    (hname : ∀ id' account', s.accounts.get? id' = some account' →
      account'.username = account.username → id' = id) :
    WellFormed { s with accounts := s.accounts.insert id account } where
  ends p row hrow := by
    have hkept : ∀ {other}, s.HasAccount other →
        HasAccount { s with accounts := s.accounts.insert id account } other := by
      rintro other ⟨account', hother⟩
      by_cases hid : other = id
      · exact ⟨account, Table.get?_insert_eq_some_iff.2 (.inl ⟨hid, rfl⟩)⟩
      · exact ⟨account', Table.get?_insert_eq_some_iff.2 (.inr ⟨hid, hother⟩)⟩
    exact (h.ends p row hrow).imp hkept hkept
  usernames a b x y ha hb hxy := by
    rcases Table.get?_insert_eq_some_iff.1 ha with ⟨rfl, rfl⟩ | ⟨-, hold⟩ <;>
      rcases Table.get?_insert_eq_some_iff.1 hb with ⟨rfl, rfl⟩ | ⟨-, hold'⟩
    · rfl
    · exact (hname b y hold' hxy.symm).symm
    · exact hname a x hold hxy
    · exact h.usernames a b x y hold hold' hxy

theorem insertAccount (h : s.WellFormed) (id : AccountId) (username : String) (avatar : Int32) :
    (Service.changed s (s.insertAccount id username avatar)).2.WellFormed := by
  unfold Store.insertAccount
  split
  · exact h
  · split
    case isTrue => exact h
    case isFalse hfresh =>
      refine h.insert fun id' account' hget hname => absurd ?_ hfresh
      exact List.any_eq_true.2 ⟨account', Table.mem_values_of_get? hget, by simpa using hname⟩

/-- An account that is deleted keeps its username. -/
theorem deleteAccount (h : s.WellFormed) (id : AccountId) :
    (Service.changed s (s.deleteAccount id)).2.WellFormed := by
  unfold Store.deleteAccount
  split
  · exact h
  · cases hget : s.accounts.get? id with
    | none => exact h
    | some account =>
      exact h.insert fun id' account' hget' hname => h.usernames id' id account' account hget' hget
        hname

theorem step (h : s.WellFormed) (policy : Policy) (now : Instant) (step : Service.Step) :
    (step.carryOut policy now s).2.WellFormed := by
  cases step with
  | call c =>
    cases c with
    | transition t => exact h.mutatePair now t.pair (t.plan policy)
    | friends owner =>
      have hsame : (Service.call (.memory now) policy s (.friends owner)).2 = s :=
        Service.friends_memory_store now policy s owner
      simp only [Service.Step.carryOut, hsame]
      exact h
  | insertAccount id username avatar => exact h.insertAccount id username avatar
  | deleteAccount id => exact h.deleteAccount id

theorem carryOut (h : s.WellFormed) (now : Instant) (deed : Service.Deed) :
    (deed.carryOut now s).WellFormed := by
  cases deed with
  | step policy step => exact h.step policy now step
  | mutate p planner => exact h.mutatePair now p planner
  | fail => exact ⟨h.ends, h.usernames⟩

end WellFormed

theorem wellFormed_store (h : s.WellFormed) (chronicle : Chronicle) :
    (chronicle.store s).WellFormed := by
  induction chronicle generalizing s with
  | nil => exact h
  | cons first rest ih => exact ih (h.carryOut first.1 first.2)

/-! ## What friend lists owe to it -/

variable {owner : AccountId} {list : List Friend}

theorem mem_of_listVisible (hlist : s.listVisible owner = .ok list) (e : Friend) :
    e ∈ list ↔ s.isLive owner = true ∧ e ∈ s.entries owner := by
  unfold listVisible at hlist
  split at hlist
  · cases hlist
  · split at hlist
    case isTrue hlive =>
      cases hlist
      simp [hlive]
    case isFalse hlive =>
      cases hlist
      simp [hlive]

theorem pairwise_precedes_of_listVisible (hlist : s.listVisible owner = .ok list) :
    list.Pairwise fun x y => x.precedes y = true := by
  unfold listVisible at hlist
  split at hlist
  · cases hlist
  · split at hlist
    · cases hlist
      exact Friend.pairwise_precedes _
    · cases hlist
      exact List.Pairwise.nil

/-- Where the tables fit together, entries of different accounts have different usernames. -/
theorem WellFormed.username_ne (h : s.WellFormed) {x y : Friend} (hx : x ∈ s.entries owner)
    (hy : y ∈ s.entries owner) (hid : x.id ≠ y.id) : x.username ≠ y.username := by
  obtain ⟨account, row, haccount, -, -, hx⟩ := mem_entries_iff.1 hx
  obtain ⟨account', row', haccount', -, -, hy⟩ := mem_entries_iff.1 hy
  intro hname
  rw [hx, hy] at hname
  exact hid (h.usernames _ _ _ _ haccount haccount' hname)

/-- A list with one entry for each account is in strictly descending order of the usernames. -/
theorem WellFormed.descending (h : s.WellFormed) (hlist : s.listVisible owner = .ok list)
    (hid : list.Pairwise fun x y => x.id ≠ y.id) :
    list.Pairwise fun x y => nameBytes y.username < nameBytes x.username := by
  refine ((pairwise_precedes_of_listVisible hlist).and hid).imp_of_mem ?_
  rintro x y hx hy ⟨hprecedes, hne⟩
  rcases Friend.before_of_precedes hprecedes hne with hlt | ⟨hname, -⟩
  · exact hlt
  · exact absurd hname (h.username_ne ((mem_of_listVisible hlist x).1 hx).2
      ((mem_of_listVisible hlist y).1 hy).2 hne)

/-- An account that a row shows has a record, and it is listed unless it is deleted. -/
theorem WellFormed.shown (h : s.WellFormed) (hlist : s.listVisible owner = .ok list)
    (howner : s.isLive owner = true) {row : Row} (hrow : s.Shows owner id row) :
    ∃ account, s.accounts.get? id = some account ∧
      (entryOf id account row ∈ list ↔ account.deleted = false) := by
  obtain ⟨account, haccount⟩ : s.HasAccount id := by
    rcases hrow with ⟨hget, -⟩ | ⟨hget, -⟩
    · exact (h.ends _ _ hget).2
    · exact (h.ends _ _ hget).1
  refine ⟨account, haccount, ?_⟩
  rw [mem_of_listVisible hlist, mem_entries_iff]
  constructor
  · rintro ⟨-, account', row', haccount', hlive, -, -⟩
    obtain rfl : account = account' := Option.some.inj (haccount.symm.trans haccount')
    exact hlive
  · intro hlive
    exact ⟨howner, account, row, haccount, hlive, hrow, rfl⟩

/-- The tables fit together. After any chronicle of an empty store both ends of every row have an
account and no two accounts share a username. So a friend list with one entry for each account is in
strictly descending order of the usernames, and of the accounts that rows show to a live owner it
leaves out those that are deleted, and nobody for want of an account. -/
theorem tables_fit (chronicle : Chronicle) :
    let s := chronicle.store .empty
    s.WellFormed ∧
    ∀ owner list, s.listVisible owner = .ok list →
      (list.Pairwise (fun x y => x.id ≠ y.id) →
        list.Pairwise fun x y => nameBytes y.username < nameBytes x.username) ∧
      (s.isLive owner = true → ∀ id row, s.Shows owner id row →
        ∃ account, s.accounts.get? id = some account ∧
          (entryOf id account row ∈ list ↔ account.deleted = false)) := by
  intro s
  have h : s.WellFormed := wellFormed_store .empty chronicle
  exact ⟨h, fun owner list hlist =>
    ⟨h.descending hlist, fun howner _ _ hrow => h.shown hlist howner hrow⟩⟩

end Store

namespace Sample

def dora : AccountId := ⟨List.replicate 16 4, rfl⟩

/-- Three accounts come, a plan makes rows between them, one account is deleted, and its id comes
back under another name. -/
def moves : Chronicle :=
  [(.ofSecond 0, .step {} (.insertAccount alice "alice" 1)),
    (.ofSecond 1, .step {} (.insertAccount bob "bob" 2)),
    (.ofSecond 2, .step {} (.insertAccount dora "dora" 3)),
    (.ofSecond 3, .mutate ⟨bob, alice⟩
      (.fixed (.ok [.put ⟨alice, bob⟩ .accepted, .put ⟨dora, alice⟩ .pending]))),
    (.ofSecond 4, .step {} (.deleteAccount bob)),
    (.ofSecond 5, .step {} (.insertAccount bob "robert" 4))]

end Sample

namespace Store

/-- Alice sees Bob's new name above Dora's. -/
theorem tables_fit_moves :
    let s := Sample.moves.store .empty
    ∃ first second : Friend, s.listVisible Sample.alice = .ok [first, second] ∧
      nameBytes second.username < nameBytes first.username ∧
      ∃ account, s.accounts.get? Sample.bob = some account ∧ account.deleted = false := by
  intro s
  have hentries : s.entries Sample.alice =
      [⟨Sample.bob, "robert", 4, .accepted, .ofSecond 3⟩,
        ⟨Sample.dora, "dora", 3, .pending, .ofSecond 3⟩] := by decide +kernel
  have hlive : s.isLive Sample.alice = true := by decide +kernel
  have hsorted : (s.entries Sample.alice).mergeSort Friend.precedes = s.entries Sample.alice := by
    refine List.mergeSort_of_pairwise ?_
    rw [hentries]
    decide +kernel
  have hlist : s.listVisible Sample.alice = .ok (s.entries Sample.alice) := by
    have hs : s.poisoned = false := by decide +kernel
    simp only [listVisible, hs, hlive, hsorted, Bool.false_eq_true, if_false, if_true]
  rw [hentries] at hlist
  have hrow : s.Shows Sample.alice Sample.bob ⟨.accepted, .ofSecond 3⟩ :=
    .inl ⟨by decide +kernel, .inl rfl⟩
  obtain ⟨hdescending, hshown⟩ := (tables_fit Sample.moves).2 Sample.alice _ hlist
  obtain ⟨account, haccount, hlisted⟩ := hshown hlive Sample.bob _ hrow
  have hnames := hdescending (by decide +kernel)
  refine ⟨_, _, hlist, ?_, account, haccount, hlisted.1 ?_⟩
  · exact (List.pairwise_cons.1 hnames).1 _ (List.mem_singleton_self _)
  · have haccount' : s.accounts.get? Sample.bob = some ⟨"robert", 4, false⟩ := by decide +kernel
    obtain rfl := Option.some.inj (haccount.symm.trans haccount')
    exact List.mem_cons_self

end Store
end Friendship
