import Friendship.Proofs.Service.Independence
import Friendship.Proofs.Service.Integrity
import Friendship.Proofs.Service.Retirement

/-!
# What a friend list does not react to

A friend list is settled by the rows that show accounts to its owner and by these accounts, so in
stores that look alike to it an account has the same list: `LooksAlike.listVisible`. Neither pairs
that it does not belong to nor its own requests are among those rows (`LooksAlike.carryOut`). What
became of a request does not show later either, as long as the two leave it at that: stores that
agree beside a pair go on to do so (`AgreeBeside.carryOut`). `hidden_unnoticed` says what follows
for histories.
-/
namespace Friendship

namespace Friend

/-- Of two entries one at most stands above the other. -/
theorem Before.asymm {x y : Friend} (h : x.Before y) : ¬ y.Before x := fun h' => by
  rw [← compareListed_eq_lt_iff] at h h'
  rw [Std.OrientedCmp.gt_of_lt h] at h'
  cases h'

end Friend

/-- The second account of a pair that stands in this way is not in the list of the first. -/
def Standing.isUnseen : Standing → Bool
  | strangers | asking => true
  | asked | friends | blocked => false

namespace Store

variable {s s' : Store} {owner other : AccountId} {p q : DirectedPair} {x y : Standing}

/-- To the owner of a list two stores look alike: the same rows show it accounts, and of these and
of itself both tell the same. -/
structure LooksAlike (owner : AccountId) (s s' : Store) : Prop where
  isLive : s'.isLive owner = s.isLive owner
  shows : ∀ id row, s'.Shows owner id row ↔ s.Shows owner id row
  account : ∀ id row, s.Shows owner id row → s'.accounts.get? id = s.accounts.get? id

theorem LooksAlike.mem_entries_iff (h : LooksAlike owner s s') (e : Friend) :
    e ∈ s'.entries owner ↔ e ∈ s.entries owner := by
  simp only [Store.mem_entries_iff, h.shows]
  refine exists_congr fun account => exists_congr fun row => ?_
  constructor
  · rintro ⟨haccount, hlive, hshown, he⟩
    exact ⟨h.account _ _ hshown ▸ haccount, hlive, hshown, he⟩
  · rintro ⟨haccount, hlive, hshown, he⟩
    exact ⟨(h.account _ _ hshown).trans haccount, hlive, hshown, he⟩

/-- In stores that look alike to it an account has the same list. -/
theorem LooksAlike.listVisible (hs : s.Coherent) (hs' : s'.Coherent) (h : LooksAlike owner s s') :
    s'.listVisible owner = s.listVisible owner := by
  obtain ⟨list, hlist, hshape⟩ := hs.listVisible owner
  obtain ⟨list', hlist', hshape'⟩ := hs'.listVisible owner
  rw [hlist, hlist']
  refine congrArg Except.ok ?_
  rw [h.isLive] at hshape'
  cases hlive : s.isLive owner with
  | false =>
    rw [hlive, if_neg Bool.false_ne_true] at hshape hshape'
    rw [hshape, hshape']
  | true =>
    rw [hlive, if_pos rfl] at hshape hshape'
    -- Both lists have the same entries, none twice, and there is one order for them.
    have hmem : ∀ e, e ∈ list' ↔ e ∈ list := fun e => by
      rw [mem_of_listVisible hlist, mem_of_listVisible hlist', h.isLive, h.mem_entries_iff]
    have hperm : list'.Perm list := (List.perm_ext_iff_of_nodup
      (hshape'.listed_once.imp fun hne => mt (congrArg Friend.id) hne)
      (hshape.listed_once.imp fun hne => mt (congrArg Friend.id) hne)).2 hmem
    exact hperm.eq_of_pairwise (fun _ _ _ _ hxy hyx => absurd hyx hxy.asymm)
      hshape'.ordered hshape.ordered

theorem Stands.related (hx : s.Stands p x) (hne : x ≠ .strangers) :
    (s.snapshot p).isEmpty = false :=
  Bool.eq_false_iff.2 fun hempty => hne (hx.unique (stands_strangers_iff.2 hempty))

/-- No row shows an account to one that has no more to do with it than to have asked it. -/
theorem Stands.not_shows_of_isUnseen (hx : s.Stands ⟨owner, other⟩ x) (hunseen : x.isUnseen = true)
    (row : Row) : ¬ s.Shows owner other row := by
  cases x with
  | asking => exact hx.not_shows
  | strangers =>
    have hforward : s.rows.get? ⟨owner, other⟩ = none := Option.map_eq_none_iff.1 hx.forward
    have hbackward : s.rows.get? ⟨other, owner⟩ = none := Option.map_eq_none_iff.1 hx.backward
    rintro (⟨hrow, -⟩ | ⟨hrow, -⟩)
    · cases hforward.symm.trans hrow
    · cases hbackward.symm.trans hrow
  | asked | friends | blocked => cases hunseen

/-! ## Stores that differ in one pair -/

/-- Two stores have the same accounts, both or neither are in use, and all rows but those of a pair
are the same. -/
structure AgreeBeside (p : DirectedPair) (s s' : Store) : Prop where
  accounts : s'.accounts = s.accounts
  poisoned : s'.poisoned = s.poisoned
  rows : ∀ q, q ≠ p → q ≠ p.reversed → s'.rows.get? q = s.rows.get? q

namespace AgreeBeside

theorem refl (p : DirectedPair) (s : Store) : AgreeBeside p s s := ⟨rfl, rfl, fun _ _ _ => rfl⟩

theorem trans {s'' : Store} (h : AgreeBeside p s s') (h' : AgreeBeside p s' s'') :
    AgreeBeside p s s'' where
  accounts := h'.accounts.trans h.accounts
  poisoned := h'.poisoned.trans h.poisoned
  rows q hq hq' := (h'.rows q hq hq').trans (h.rows q hq hq')

theorem snapshot (h : AgreeBeside p s s') (hq : q ≠ p) (hq' : q ≠ p.reversed) :
    s'.snapshot q = s.snapshot q := by
  have hrev : q.reversed ≠ p := fun e => hq' (DirectedPair.reversed_eq_iff.1 e)
  have hrev' : q.reversed ≠ p.reversed := fun e => hq (DirectedPair.reversed_eq_iff.1 e)
  simp only [Store.snapshot, h.rows q hq hq', h.rows q.reversed hrev hrev']

theorem missingEnd? (h : AgreeBeside p s s') (plan : List Write) :
    s'.missingEnd? plan = s.missingEnd? plan := by
  simp only [Store.missingEnd?, Store.isLive, h.accounts]

theorem writeAll (h : AgreeBeside p s s') (now : Instant) (plan : List Write) :
    AgreeBeside p (s.writeAll now plan) (s'.writeAll now plan) where
  accounts := h.accounts
  poisoned := h.poisoned
  rows q hq hq' := by rw [get?_writeAll, get?_writeAll, h.rows q hq hq']

/-- Another pair is changed alike in both. -/
theorem mutatePair (h : AgreeBeside p s s') (hq : q ≠ p) (hq' : q ≠ p.reversed) (now : Instant)
    (planner : Planner) :
    AgreeBeside p (s.mutatePair now q planner).2 (s'.mutatePair now q planner).2 := by
  cases hs : s.poisoned with
  | true =>
    have hs' : s'.poisoned = true := h.poisoned.trans hs
    simpa only [Store.mutatePair, hs, hs', if_true] using h
  | false =>
    have hs' : s'.poisoned = false := h.poisoned.trans hs
    simp only [Store.mutatePair, hs, hs', Bool.false_eq_true, if_false, h.snapshot hq hq']
    cases planner (s.snapshot q) with
    | error e => exact h
    | ok plan =>
      simp only [apply, h.missingEnd? plan]
      cases s.missingEnd? plan with
      | some id => exact h
      | none => exact h.writeAll now plan

/-- A step that is no transition on the pair leaves stores in agreement beside it. -/
theorem carryOut {step : Service.Step} (h : AgreeBeside p s s') (hon : step.isOn p = false)
    (policy : Policy) (now : Instant) :
    AgreeBeside p (step.carryOut policy now s).2 (step.carryOut policy now s').2 := by
  cases step with
  | call c =>
    cases c with
    | transition t =>
      have hpair : ¬ (t.pair = p ∨ t.pair = p.reversed) := fun e =>
        Bool.false_ne_true (hon.symm.trans (Transition.isBetween_iff.2 e))
      exact h.mutatePair (fun e => hpair (Or.inl e)) (fun e => hpair (Or.inr e)) now (t.plan policy)
    | friends id =>
      have hsame := Service.friends_memory_store now policy s id
      have hsame' := Service.friends_memory_store now policy s' id
      simpa only [Service.Step.carryOut, Service.call, hsame, hsame'] using h
  | insertAccount id username avatar =>
    simp only [Service.Step.carryOut, Store.insertAccount, h.poisoned, h.accounts]
    split
    · exact h
    · split
      · exact h
      · exact ⟨rfl, rfl, h.rows⟩
  | deleteAccount id =>
    simp only [Service.Step.carryOut, Store.deleteAccount, h.poisoned, h.accounts]
    split
    · exact h
    · cases s.accounts.get? id with
      | none => exact h
      | some account => exact ⟨rfl, rfl, h.rows⟩

/-- A transition on the pair itself changes nothing beside it. -/
theorem perform {t : Transition} (ht : t.isBetween p = true) (now : Instant) (policy : Policy)
    (s : Store) : AgreeBeside p s (Service.perform (.memory now) policy s t).2 where
  accounts := Service.accounts_perform now policy s t
  poisoned := Service.poisoned_perform now policy s t
  rows q hq hq' := by
    refine Service.get?_perform (Bool.eq_false_iff.2 fun hbetween => ?_) now policy s
    -- A pair that it is on too would be the same one.
    rcases Transition.eq_pair_or_eq_reversed ht with rfl | rfl <;>
      rcases Transition.eq_pair_or_eq_reversed hbetween with rfl | rfl <;> simp at hq hq'

/-- The difference is not seen from the first account of the pair, unless its list shows the second
one in either store. -/
theorem looksAlike (h : AgreeBeside ⟨owner, other⟩ s s') (hx : s.Stands ⟨owner, other⟩ x)
    (hy : s'.Stands ⟨owner, other⟩ y) (hxunseen : x.isUnseen = true)
    (hyunseen : y.isUnseen = true) : LooksAlike owner s s' where
  isLive := by simp only [Store.isLive, h.accounts]
  account _ _ _ := by rw [h.accounts]
  shows id row := by
    by_cases hid : id = other
    · subst hid
      exact iff_of_false (hy.not_shows_of_isUnseen hyunseen row)
        (hx.not_shows_of_isUnseen hxunseen row)
    · unfold Shows
      by_cases hself : id = owner
      · subst hself
        have hpair : (⟨id, id⟩ : DirectedPair) ≠ ⟨id, other⟩ := by simp [hid]
        have hpair' : (⟨id, id⟩ : DirectedPair) ≠ DirectedPair.reversed ⟨id, other⟩ := by
          simp [DirectedPair.reversed, hid]
        rw [h.rows _ hpair hpair']
      · rw [h.rows ⟨owner, id⟩ (by simp [hid]) (by simp [DirectedPair.reversed, hself]),
          h.rows ⟨id, owner⟩ (by simp [hself]) (by simp [DirectedPair.reversed, hid])]

end AgreeBeside
end Store

/-! ## What is hidden from the owner of a list -/

namespace Service

variable {s : Store} {owner other : AccountId} {policy : Policy} {now : Instant}

/-- After a rejection the two are strangers, whether there was a request or not. -/
theorem perform_reject {x : Standing} (hs : s.Coherent) (hx : s.Stands ⟨owner, other⟩ x)
    (hunseen : x.isUnseen = true) (now : Instant) (policy : Policy) :
    (perform (.memory now) policy s ⟨.rejectFriend, other, owner⟩).2.Stands ⟨owner, other⟩
      .strangers := by
  rw [perform_of_stands (t := ⟨.rejectFriend, other, owner⟩) hs.inUse hx]
  cases hy : x.after policy s.isLive ⟨.rejectFriend, other, owner⟩ with
  | ok y =>
    cases Standing.moves_of_next (Standing.next_of_after hy) with
    | reject => exact Store.stands_writeAll hx hy now
  | error e =>
    cases x with
    | strangers => exact hx
    | asking =>
      -- A request is one of somebody else, and nothing more is asked for.
      have hne : other ≠ owner := by
        rintro rfl
        cases hx.unique (hs.stands_self rfl)
      rw [Standing.after_distinct hne] at hy
      cases hy
    | asked | friends | blocked => cases hunseen

/-- A request changes nothing, or makes strangers of accounts that then have one. -/
theorem perform_add_cases (hs : s.Coherent) (owner other : AccountId) (now : Instant)
    (policy : Policy) :
    (perform (.memory now) policy s ⟨.addFriend, owner, other⟩).2 = s ∨
      s.Stands ⟨owner, other⟩ .strangers ∧
        (perform (.memory now) policy s ⟨.addFriend, owner, other⟩).2.Stands ⟨owner, other⟩
          .asking := by
  obtain ⟨x, hx⟩ := hs.exists_stands ⟨owner, other⟩
  rw [perform_of_stands (t := ⟨.addFriend, owner, other⟩) hs.inUse hx]
  cases hy : x.after policy s.isLive ⟨.addFriend, owner, other⟩ with
  | error e => exact Or.inl rfl
  | ok y =>
    cases Standing.moves_of_next (Standing.next_of_after hy) with
    | ask => exact Or.inr ⟨hx, Store.stands_writeAll hx hy now⟩
    | askAgain hne =>
      have hnone : x.writes ⟨.addFriend, owner, other⟩ x = [] := by
        simp [Standing.writes, Standing.renews, hne]
      exact Or.inl (by simp only [hnone, Store.writeAll_nil])

/-- What the owner of a list must not learn from it: what others do with each other, that an account
comes or goes which has no row with the owner, that the owner asks somebody, and that a request of
the owner is rejected or taken away by either side. Asking for lists is no secret but tells
nothing. -/
inductive Step.HiddenFrom (owner : AccountId) (s : Store) : Step → Prop
  | between {t : Transition} (h : ¬ t.pair.touches owner) :
    HiddenFrom owner s (.call (.transition t))
  | lists (id : AccountId) : HiddenFrom owner s (.call (.friends id))
  | comes {id : AccountId} (hid : id ≠ owner) (hrows : s.Stands ⟨owner, id⟩ .strangers)
    (username : String) (avatar : Int32) : HiddenFrom owner s (.insertAccount id username avatar)
  | goes {id : AccountId} (hid : id ≠ owner) (hrows : s.Stands ⟨owner, id⟩ .strangers) :
    HiddenFrom owner s (.deleteAccount id)
  | asks (other : AccountId) : HiddenFrom owner s (.call (.transition ⟨.addFriend, owner, other⟩))
  | rejected {other : AccountId} (h : s.Stands ⟨owner, other⟩ .asking) :
    HiddenFrom owner s (.call (.transition ⟨.rejectFriend, other, owner⟩))
  | withdrawn {other : AccountId} (h : s.Stands ⟨owner, other⟩ .asking) :
    HiddenFrom owner s (.call (.transition ⟨.removeFriend, owner, other⟩))
  | removed {other : AccountId} (h : s.Stands ⟨owner, other⟩ .asking) :
    HiddenFrom owner s (.call (.transition ⟨.removeFriend, other, owner⟩))

end Service

namespace Store

variable {s : Store} {owner other : AccountId} {policy : Policy} {now : Instant}
  {step : Service.Step}

namespace LooksAlike

theorem refl (owner : AccountId) (s : Store) : LooksAlike owner s s :=
  ⟨rfl, fun _ _ => Iff.rfl, fun _ _ _ => rfl⟩

/-- Accounts that come or go are not missed where they have no row. -/
theorem about {id : AccountId} (hid : id ≠ owner) (hrows : s.Stands ⟨owner, id⟩ .strangers)
    (hon : ∀ p, step.isOn p = false) (habout : ∀ other, other ≠ id → step.isAbout other = false)
    (policy : Policy) (now : Instant) : LooksAlike owner s (step.carryOut policy now s).2 where
  isLive := Service.Step.isLive_carryOut (habout owner hid.symm) policy now s
  shows other row := by
    unfold Shows
    rw [Service.Step.get?_carryOut (hon _), Service.Step.get?_carryOut (hon _)]
  account other row hshown := by
    refine Service.Step.account_carryOut (habout other ?_) policy now s
    rintro rfl
    exact hrows.not_shows_of_isUnseen rfl row hshown

/-- A transition goes unnoticed where the list of one side does not show the other one, neither
before it nor after it. -/
theorem unseen {t : Transition} {x y : Standing} (ht : t.isBetween ⟨owner, other⟩ = true)
    (hx : s.Stands ⟨owner, other⟩ x)
    (hy : (Service.perform (.memory now) policy s t).2.Stands ⟨owner, other⟩ y)
    (hxunseen : x.isUnseen = true) (hyunseen : y.isUnseen = true) :
    LooksAlike owner s (Service.perform (.memory now) policy s t).2 :=
  (AgreeBeside.perform ht now policy s).looksAlike hx hy hxunseen hyunseen

/-- To the account that it is hidden from a step leaves the store as it was. -/
theorem carryOut (hs : s.Coherent) (h : step.HiddenFrom owner s) (policy : Policy)
    (now : Instant) : LooksAlike owner s (step.carryOut policy now s).2 := by
  cases h with
  | @between t h =>
    have hon : ∀ p : DirectedPair, p.touches owner →
        Service.Step.isOn p (.call (.transition t)) = false := by
      intro p hp
      refine Bool.eq_false_iff.2 fun hbetween => h ?_
      rcases Transition.eq_pair_or_eq_reversed hbetween with rfl | rfl
      · exact hp
      · exact hp.symm
    refine ⟨?_, fun id row => ?_, fun _ _ _ => ?_⟩
    · exact Service.Step.isLive_carryOut rfl policy now s
    · unfold Shows
      rw [Service.Step.get?_carryOut (hon ⟨owner, id⟩ (Or.inl rfl)),
        Service.Step.get?_carryOut (hon ⟨id, owner⟩ (Or.inr rfl))]
    · exact Service.Step.account_carryOut rfl policy now s
  | lists id =>
    have hsame : (Service.call (.memory now) policy s (.friends id)).2 = s :=
      Service.friends_memory_store now policy s id
    simp only [Service.Step.carryOut, hsame]
    exact refl owner s
  | comes hid hrows username avatar =>
    exact about hid hrows (fun _ => rfl) (fun _ hne => by simp [Service.Step.isAbout, hne.symm])
      policy now
  | goes hid hrows =>
    exact about hid hrows (fun _ => rfl) (fun _ hne => by simp [Service.Step.isAbout, hne.symm])
      policy now
  | asks other =>
    rcases Service.perform_add_cases hs owner other now policy with hsame | ⟨hx, hy⟩
    · simp only [Service.Step.carryOut_transition, hsame]
      exact refl owner s
    · exact unseen (by simp [Transition.isBetween]) hx hy rfl rfl
  | rejected hx =>
    have hy := Service.perform_reject hs hx rfl now policy
    exact unseen (by simp [Transition.isBetween]) hx hy rfl rfl
  | withdrawn hx =>
    have hy := (Service.perform_remove hs (hx.related (by decide)) now policy).2
    exact unseen (by simp [Transition.isBetween]) hx hy rfl rfl
  | removed hx =>
    have hy := (Service.perform_remove hs (hx.reversed.related (by decide)) now policy).2.reversed
    exact unseen (by simp [Transition.isBetween]) hx hy rfl rfl

end LooksAlike
end Store

namespace History

variable {s s' : Store} {owner other : AccountId} {policy : Policy} {x y : Standing}

/-- What is hidden from an account at every step leaves its list as it is. -/
theorem listVisible_of_hidden (hs : s.Coherent) {history : History}
    (hhidden : ∀ m ∈ history.moments policy s, m.step.HiddenFrom owner m.before) :
    (history.store policy s).listVisible owner = s.listVisible owner := by
  induction history generalizing s with
  | nil => rfl
  | cons first rest ih =>
    obtain ⟨now, step⟩ := first
    obtain ⟨hstep, hrest⟩ := List.forall_mem_cons.1 hhidden
    have hnext := hs.carryOut policy now step
    exact (ih hnext hrest).trans
      (Store.LooksAlike.listVisible hs hnext (.carryOut hs hstep policy now))

/-- What two accounts have done with each other does not show in the list of the first as long as
that does not show the second, whatever else happens meanwhile. -/
theorem listVisible_of_agreeBeside (hs : s.Coherent) (hs' : s'.Coherent)
    (h : s.AgreeBeside ⟨owner, other⟩ s') (hx : s.Stands ⟨owner, other⟩ x)
    (hy : s'.Stands ⟨owner, other⟩ y) (hxunseen : x.isUnseen = true) (hyunseen : y.isUnseen = true)
    {later : History} (hlater : ∀ timed ∈ later, timed.2.isOn ⟨owner, other⟩ = false) :
    (later.store policy s').listVisible owner = (later.store policy s).listVisible owner := by
  induction later generalizing s s' with
  | nil => exact (h.looksAlike hx hy hxunseen hyunseen).listVisible hs hs'
  | cons first rest ih =>
    obtain ⟨now, step⟩ := first
    obtain ⟨hstep, hrest⟩ := List.forall_mem_cons.1 hlater
    exact ih (hs.carryOut policy now step) (hs'.carryOut policy now step)
      (h.carryOut hstep policy now) (Service.Step.stands_carryOut hstep hx policy now)
      (Service.Step.stands_carryOut hstep hy policy now) hrest

/-- The list of an account is the same before and after a step that is hidden from it, and before
and after a history of such steps. Whether it has not asked somebody, has asked in vain or still
waits for an answer, its list is the same, now and after anything that the two do not do with each
other. -/
theorem hidden_unnoticed {past : Policy} (h : s.Reachable past) (owner : AccountId)
    (policy : Policy) :
    (∀ now step, Service.Step.HiddenFrom owner s step →
      ∃ list, s.listVisible owner = .ok list ∧
        (step.carryOut policy now s).2.listVisible owner = .ok list) ∧
    (∀ history : History, (∀ m ∈ history.moments policy s, m.step.HiddenFrom owner m.before) →
      ∃ list, s.listVisible owner = .ok list ∧
        (history.store policy s).listVisible owner = .ok list) ∧
    ∀ other, s.Stands ⟨owner, other⟩ .strangers → ∀ (now now' : Instant) (later : History),
      (∀ timed ∈ later, timed.2.isOn ⟨owner, other⟩ = false) →
      let waiting := (Service.perform (.memory now) policy s ⟨.addFriend, owner, other⟩).2
      let refused := (Service.perform (.memory now') policy waiting ⟨.rejectFriend, other, owner⟩).2
      ∃ list, (later.store policy s).listVisible owner = .ok list ∧
        (later.store policy waiting).listVisible owner = .ok list ∧
        (later.store policy refused).listVisible owner = .ok list := by
  have hs := h.coherent
  refine ⟨fun now step hstep => ?_, fun history hhidden => ?_,
    fun other hx now now' later hlater => ?_⟩
  · obtain ⟨list, hlist, -⟩ := hs.listVisible owner
    have hsame := (Store.LooksAlike.carryOut hs hstep policy now).listVisible hs
      (hs.carryOut policy now step)
    exact ⟨list, hlist, hsame.trans hlist⟩
  · obtain ⟨list, hlist, -⟩ := hs.listVisible owner
    exact ⟨list, hlist, (listVisible_of_hidden hs hhidden).trans hlist⟩
  · intro waiting refused
    have hwaiting : waiting.Coherent := hs.perform now policy _
    obtain ⟨y, hy, hyunseen⟩ : ∃ y, waiting.Stands ⟨owner, other⟩ y ∧ y.isUnseen = true := by
      rcases Service.perform_add_cases hs owner other now policy with hsame | ⟨-, hy⟩
      · exact ⟨.strangers, by rwa [← hsame] at hx, rfl⟩
      · exact ⟨.asking, hy, rfl⟩
    have hz : refused.Stands ⟨owner, other⟩ .strangers :=
      Service.perform_reject hwaiting hy hyunseen now' policy
    have hasked : s.AgreeBeside ⟨owner, other⟩ waiting :=
      .perform (by simp [Transition.isBetween]) now policy s
    have hanswered : waiting.AgreeBeside ⟨owner, other⟩ refused :=
      .perform (by simp [Transition.isBetween]) now' policy waiting
    obtain ⟨list, hlist, -⟩ := (hs.store policy later).listVisible owner
    refine ⟨list, hlist, ?_, ?_⟩
    · exact (listVisible_of_agreeBeside hs hwaiting hasked hx hy rfl hyunseen hlater).trans hlist
    · exact (listVisible_of_agreeBeside hs (hwaiting.perform now' policy _)
        (hasked.trans hanswered) hx hz rfl rfl hlater).trans hlist

end History

namespace Sample

/-- Alice has asked Bob and waits; Carol asks Alice. -/
def courtship : History :=
  request ++
    [(.ofSecond 3, .insertAccount carol "carol" 3),
      (.ofSecond 4, .call (.transition ⟨.addFriend, carol, alice⟩))]

end Sample

namespace History

/-- Alice sees Carol in her list, but not that Bob rejects her. -/
theorem hidden_unnoticed_courtship :
    let s := Sample.courtship.store {} .empty
    let reject : Service.Step := .call (.transition ⟨.rejectFriend, Sample.bob, Sample.alice⟩)
    s.Reachable {} ∧ reject.HiddenFrom Sample.alice s ∧
    ∃ list, (∃ e ∈ list, e.id = Sample.carol) ∧ s.listVisible Sample.alice = .ok list ∧
      (reject.carryOut {} (.ofSecond 5) s).2.listVisible Sample.alice = .ok list := by
  intro s reject
  have h : s.Reachable {} := Store.Reachable.empty.after _
  have hwaits : s.Stands ⟨Sample.alice, Sample.bob⟩ .asking := by
    unfold Store.Stands
    decide +kernel
  have hhidden : reject.HiddenFrom Sample.alice s := .rejected hwaits
  refine ⟨h, hhidden, ?_⟩
  obtain ⟨list, hlist, hafter⟩ :=
    (hidden_unnoticed h Sample.alice {}).1 (.ofSecond 5) reject hhidden
  have hcarol : s.rows.get? ⟨Sample.carol, Sample.alice⟩ = some ⟨.pending, .ofSecond 4⟩ := by
    decide +kernel
  obtain ⟨e, he, hid, -⟩ := (h.coherent.lists_iff hlist).2
    ⟨by decide +kernel, by decide +kernel, Or.inr ⟨hcarol, rfl⟩⟩
  exact ⟨list, ⟨e, he, hid⟩, hlist, hafter⟩

end History
end Friendship
