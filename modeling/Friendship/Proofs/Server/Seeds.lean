import Friendship.Proofs.Service.Integrity
import Friendship.Server.Start
import Mathlib.Data.List.Induction

/-!
# The first accounts of a store

Accounts that a store begins with are added one after another, and one of the same id takes the
place of an earlier one: a store that was seeded holds, under each id, the last one of it
(`Seeded`). Two seeds clash if the earlier one still stands when the later one comes with its
username. `seed_cases` says that seeding fails at the first seed that clashes with an earlier one,
and nowhere else; a server that is started with a store in memory does so too: `start_seeds`.
-/
namespace Friendship

open Settings (SeedAccount)

section Positions

variable {seeds before rest : List SeedAccount} {i : Nat} {a b : SeedAccount}

/-- The last seed of an id stands at a position. -/
def LastOfId (seeds : List SeedAccount) (i : Nat) (a : SeedAccount) : Prop :=
  seeds[i]? = some a ∧ ∀ k c, i < k → seeds[k]? = some c → c.id ≠ a.id

/-- The seeds at two positions have one username, and no seed between them has the id of the first
one. -/
def Clash (seeds : List SeedAccount) (i j : Nat) : Prop :=
  i < j ∧ ∃ a b, seeds[i]? = some a ∧ seeds[j]? = some b ∧ a.username = b.username ∧
    ∀ k c, i < k → k < j → seeds[k]? = some c → c.id ≠ a.id

theorem lt_length_of_getElem? (h : before[i]? = some a) : i < before.length :=
  (List.getElem?_eq_some_iff.1 h).1

theorem getElem?_concat_eq_some_iff :
    (before ++ [b])[i]? = some a ↔ before[i]? = some a ∨ i = before.length ∧ a = b := by
  constructor
  · intro h
    by_cases hi : i < before.length
    · rw [List.getElem?_append_left hi] at h
      exact .inl h
    · have hlength := lt_length_of_getElem? h
      rw [List.length_append, List.length_singleton] at hlength
      obtain rfl : i = before.length := by omega
      rw [List.getElem?_concat_length] at h
      exact .inr ⟨rfl, (Option.some.inj h).symm⟩
  · rintro (h | ⟨rfl, rfl⟩)
    · rw [List.getElem?_append_left (lt_length_of_getElem? h), h]
    · exact List.getElem?_concat_length

/-- What comes last takes the place of the earlier ones of its id. -/
theorem lastOfId_concat :
    LastOfId (before ++ [b]) i a ↔
      i = before.length ∧ a = b ∨ LastOfId before i a ∧ b.id ≠ a.id := by
  constructor
  · rintro ⟨h, hlast⟩
    rcases getElem?_concat_eq_some_iff.1 h with h | ⟨rfl, rfl⟩
    · refine .inr ⟨⟨h, fun k c hk hc => ?_⟩, ?_⟩
      · exact hlast k c hk (getElem?_concat_eq_some_iff.2 (.inl hc))
      · exact hlast before.length b (lt_length_of_getElem? h)
          (getElem?_concat_eq_some_iff.2 (.inr ⟨rfl, rfl⟩))
    · exact .inl ⟨rfl, rfl⟩
  · rintro (⟨rfl, rfl⟩ | ⟨⟨h, hlast⟩, hne⟩)
    · refine ⟨List.getElem?_concat_length, fun k c hk hc => ?_⟩
      have hlength := lt_length_of_getElem? hc
      rw [List.length_append, List.length_singleton] at hlength
      omega
    · refine ⟨getElem?_concat_eq_some_iff.2 (.inl h), fun k c hk hc => ?_⟩
      rcases getElem?_concat_eq_some_iff.1 hc with hc | ⟨-, rfl⟩
      · exact hlast k c hk hc
      · exact hne

/-- Of the seeds of an id one is the last. -/
theorem exists_lastOfId (h : a ∈ seeds) : ∃ i c, LastOfId seeds i c ∧ c.id = a.id := by
  induction seeds using List.reverseRecOn with
  | nil => cases h
  | append_singleton before b ih =>
    by_cases hid : b.id = a.id
    · exact ⟨before.length, b, lastOfId_concat.2 (.inl ⟨rfl, rfl⟩), hid⟩
    · have hbefore : a ∈ before := by
        rcases List.mem_append.1 h with h | h
        · exact h
        · exact absurd (congrArg SeedAccount.id (List.mem_singleton.1 h).symm) hid
      obtain ⟨i, c, hlast, hc⟩ := ih hbefore
      exact ⟨i, c, lastOfId_concat.2 (.inr ⟨hlast, by rwa [hc]⟩), hc⟩

/-- A seed clashes with those before it that have its username and are the last of their ids. -/
theorem clash_length_iff :
    Clash (before ++ b :: rest) i before.length ↔
      ∃ a, LastOfId before i a ∧ a.username = b.username := by
  have hfront : ∀ k, k < before.length → (before ++ b :: rest)[k]? = before[k]? := fun k hk =>
    List.getElem?_append_left hk
  have hhere : (before ++ b :: rest)[before.length]? = some b := by simp
  constructor
  · rintro ⟨hi, a, b', ha, hb, hname, hbetween⟩
    rw [hfront i hi] at ha
    obtain rfl := Option.some.inj (hhere.symm.trans hb)
    refine ⟨a, ⟨ha, fun k c hk hc => ?_⟩, hname⟩
    have hlength := lt_length_of_getElem? hc
    exact hbetween k c hk hlength ((hfront k hlength).trans hc)
  · rintro ⟨a, ⟨ha, hlast⟩, hname⟩
    have hi := lt_length_of_getElem? ha
    refine ⟨hi, a, b, (hfront i hi).trans ha, hhere, hname, fun k c hk hlength hc => ?_⟩
    exact hlast k c hk ((hfront k hlength).symm.trans hc)

end Positions

namespace Store

variable {s : Store} {before rest : List SeedAccount} {b : SeedAccount}

/-- A store as it is after it was seeded. -/
structure Seeded (seeds : List SeedAccount) (s : Store) : Prop where
  /-- Under an id stands the last seed of it, live, and nothing under an id without a seed. -/
  account : ∀ id account, s.accounts.get? id = some account ↔
    ∃ i a, LastOfId seeds i a ∧ a.id = id ∧ account = ⟨a.username, a.avatar, false⟩
  /-- No two accounts have one username. -/
  distinct : ∀ id id' account account', s.accounts.get? id = some account →
    s.accounts.get? id' = some account' → account.username = account'.username → id = id'
  noRows : s.rows.toList = []
  inUse : s.poisoned = false

/-- There are accounts under the ids of the seeds. -/
theorem Seeded.isSome_iff {seeds : List SeedAccount} (h : s.Seeded seeds) (id : AccountId) :
    (s.accounts.get? id).isSome ↔ ∃ a ∈ seeds, a.id = id := by
  rw [Option.isSome_iff_exists]
  constructor
  · rintro ⟨account, haccount⟩
    obtain ⟨i, a, hlast, hid, -⟩ := (h.account id account).1 haccount
    exact ⟨a, List.mem_of_getElem? hlast.1, hid⟩
  · rintro ⟨a, ha, rfl⟩
    obtain ⟨i, c, hlast, hid⟩ := exists_lastOfId ha
    exact ⟨_, (h.account a.id _).2 ⟨i, c, hlast, hid, rfl⟩⟩

theorem seeded_empty : Seeded [] .empty where
  account id account := by
    constructor
    · intro h
      cases h
    · rintro ⟨i, a, ⟨h, -⟩, -⟩
      cases h
  distinct _ _ _ _ h := by cases h
  noRows := rfl
  inUse := rfl

/-- A username is taken by the last seeds of their ids. -/
theorem Seeded.taken_iff (h : Seeded before s) :
    (s.accounts.values.any fun account => account.username == b.username) = true ↔
      ∃ i a, LastOfId before i a ∧ a.username = b.username := by
  simp only [List.any_eq_true, beq_iff_eq]
  constructor
  · rintro ⟨account, haccount, hname⟩
    obtain ⟨⟨id, account⟩, hmem, rfl⟩ := List.mem_map.1 haccount
    obtain ⟨i, a, hlast, -, rfl⟩ := (h.account id account).1 (Table.mem_toList_iff.1 hmem)
    exact ⟨i, a, hlast, hname⟩
  · rintro ⟨i, a, hlast, hname⟩
    have hget := (h.account a.id _).2 ⟨i, a, hlast, rfl, rfl⟩
    exact ⟨_, Table.mem_values_of_get? hget, hname⟩

/-- A seed whose username is not taken is added. -/
theorem Seeded.insert (h : Seeded before s)
    (hfree : ¬ ∃ i a, LastOfId before i a ∧ a.username = b.username) :
    Seeded (before ++ [b])
      { s with accounts := s.accounts.insert b.id ⟨b.username, b.avatar, false⟩ } where
  account id account := by
    rw [Table.get?_insert_eq_some_iff, h.account]
    simp only [lastOfId_concat]
    constructor
    · rintro (⟨rfl, rfl⟩ | ⟨hne, i, a, hlast, rfl, rfl⟩)
      · exact ⟨before.length, b, .inl ⟨rfl, rfl⟩, rfl, rfl⟩
      · exact ⟨i, a, .inr ⟨hlast, hne.symm⟩, rfl, rfl⟩
    · rintro ⟨i, a, ⟨rfl, rfl⟩ | ⟨hlast, hne⟩, rfl, rfl⟩
      · exact .inl ⟨rfl, rfl⟩
      · exact .inr ⟨hne.symm, i, a, hlast, rfl, rfl⟩
  distinct id id' account account' hget hget' hname := by
    have hother : ∀ id account, s.accounts.get? id = some account →
        account.username ≠ b.username := by
      intro id account hget hname
      obtain ⟨i, a, hlast, -, rfl⟩ := (h.account id account).1 hget
      exact hfree ⟨i, a, hlast, hname⟩
    rcases Table.get?_insert_eq_some_iff.1 hget with ⟨rfl, rfl⟩ | ⟨-, hget⟩ <;>
      rcases Table.get?_insert_eq_some_iff.1 hget' with ⟨rfl, rfl⟩ | ⟨-, hget'⟩
    · rfl
    · exact absurd hname.symm (hother _ _ hget')
    · exact absurd hname (hother _ _ hget)
    · exact h.distinct _ _ _ _ hget hget' hname
  noRows := h.noRows
  inUse := h.inUse

theorem Seeded.insertAccount (h : Seeded before s) (b : SeedAccount)
    (rest : List SeedAccount) :
    (∃ i, Clash (before ++ b :: rest) i before.length) ∧
        s.insertAccount b.id b.username b.avatar =
          .error (.invalidArgument (.usernameTaken b.username)) ∨
      (¬ ∃ i, Clash (before ++ b :: rest) i before.length) ∧
        ∃ next, s.insertAccount b.id b.username b.avatar = .ok next ∧
          Seeded (before ++ [b]) next := by
  have hclash : (∃ i, Clash (before ++ b :: rest) i before.length) ↔
      ∃ i a, LastOfId before i a ∧ a.username = b.username :=
    exists_congr fun _ => clash_length_iff
  unfold Store.insertAccount
  rw [if_neg (by simp [h.inUse]), hclash, ← h.taken_iff]
  by_cases htaken : (s.accounts.values.any fun account => account.username == b.username) = true
  · exact .inl ⟨htaken, if_pos htaken⟩
  · exact .inr ⟨htaken, _, if_neg htaken, h.insert (mt h.taken_iff.2 htaken)⟩

/-- Seeding comes to an end if no seed clashes with an earlier one, and fails at the first one that
does; of the seeds in front, which are in the store, none does. -/
theorem Seeded.seed_cases (h : Seeded before s) (rest : List SeedAccount) :
    (∃ next, Server.Start.seed s rest = .ok next ∧ Seeded (before ++ rest) next ∧
      ∀ i j, before.length ≤ j → ¬ Clash (before ++ rest) i j) ∨
    ∃ i j b, Clash (before ++ rest) i j ∧ (before ++ rest)[j]? = some b ∧
      (∀ i' j', before.length ≤ j' → j' < j → ¬ Clash (before ++ rest) i' j') ∧
      Server.Start.seed s rest = .error (.invalidArgument (.usernameTaken b.username)) := by
  induction rest generalizing before s with
  | nil =>
    refine .inl ⟨s, rfl, by rwa [List.append_nil], fun i j hj ⟨_, a, b, _, hb, _⟩ => ?_⟩
    rw [List.append_nil] at hb
    exact absurd (lt_length_of_getElem? hb) (by omega)
  | cons b rest ih =>
    rcases h.insertAccount b rest with ⟨⟨i, hclash⟩, hfails⟩ | ⟨hnone, next, hnext, hseeded⟩
    · refine .inr ⟨i, before.length, b, hclash, by simp, fun i' j' hj' hlt => by omega, ?_⟩
      simp [Server.Start.seed, hfails, bind, Except.bind]
    · have hseed : Server.Start.seed s (b :: rest) = Server.Start.seed next rest := by
        simp [Server.Start.seed, hnext, bind, Except.bind]
      have hsame : before ++ b :: rest = before ++ [b] ++ rest := by simp
      have hstep : ∀ j, before.length ≤ j → j = before.length ∨ (before ++ [b]).length ≤ j := by
        intro j hj
        rw [List.length_append, List.length_singleton]
        omega
      rw [hsame] at hnone ⊢
      rw [hseed]
      rcases ih hseeded with ⟨last, hlast, hlasts, hfree⟩ | ⟨i, j, c, hclash, hc, hfirst, hfails⟩
      · refine .inl ⟨last, hlast, hlasts, fun i j hj => ?_⟩
        rcases hstep j hj with rfl | hj
        · exact fun hclash => hnone ⟨i, hclash⟩
        · exact hfree i j hj
      · refine .inr ⟨i, j, c, hclash, hc, fun i' j' hj' hlt => ?_, hfails⟩
        rcases hstep j' hj' with rfl | hj'
        · exact fun hclash' => hnone ⟨i', hclash'⟩
        · exact hfirst i' j' hj' hlt

end Store

namespace Server

variable {σ : Type}

/-- A server with a store in memory that believes tokens starts if and only if its store can be
seeded. -/
theorem result_start (around : Surroundings σ) (state : σ) {settings : Settings}
    (hstore : settings.store.backend = "memory") (hauth : settings.auth.backend = "fake") :
    (start around state settings).result =
      match Start.seed .empty settings.store.seedAccounts with
      | .error e => .error (.seed e)
      | .ok store => .ok ⟨.memory store, .plain, settings.social⟩ := by
  unfold start Start.server Start.openStore Start.openMemory Start.identity
  rw [if_pos hstore, if_pos hauth]
  cases Start.seed .empty settings.store.seedAccounts <;> rfl

/-- What a server tells that did not start because a username was taken. -/
theorem message_usernameTaken (username : String) :
    (StartError.seed (.invalidArgument (.usernameTaken username))).message =
      s!"invalid argument: username {username} already taken" :=
  calc "invalid argument: " ++ ("username " ++ username ++ " already taken")
    _ = "invalid argument: " ++ "username " ++ username ++ " already taken" := by
      simp only [String.append_assoc]
    _ = _ := rfl

/-- A server with a store in memory that believes tokens does not start if and only if two of its
seeds clash, and tells the username of the first one that clashes with an earlier one. The store of
a server that starts has one live account for each id of a seed, with the username and avatar of the
last seed of the id, no two of one username, and no rows. -/
theorem start_seeds (around : Surroundings σ) (state : σ) {settings : Settings}
    (hstore : settings.store.backend = "memory") (hauth : settings.auth.backend = "fake") :
    ((∃ e, (start around state settings).result = .error e) ↔
        ∃ i j, Clash settings.store.seedAccounts i j) ∧
      (∀ i j b, Clash settings.store.seedAccounts i j →
        (∀ i' j', Clash settings.store.seedAccounts i' j' → j ≤ j') →
        settings.store.seedAccounts[j]? = some b →
        ∃ e, (start around state settings).result = .error e ∧
          e = .seed (.invalidArgument (.usernameTaken b.username)) ∧
          e.message = s!"invalid argument: username {b.username} already taken") ∧
      ∀ running, (start around state settings).result = .ok running →
        ∃ store, running.home = .memory store ∧ store.Seeded settings.store.seedAccounts ∧
          ∀ id, (store.accounts.get? id).isSome ↔
            ∃ a ∈ settings.store.seedAccounts, a.id = id := by
  rw [result_start around state hstore hauth]
  rcases Store.seeded_empty.seed_cases settings.store.seedAccounts with
    ⟨store, hseed, hseeded, hnone⟩ | ⟨i, j, b, hclash, hb, hfirst, hseed⟩
  · rw [List.nil_append] at hseeded hnone
    have hfree : ∀ i j, ¬ Clash settings.store.seedAccounts i j := fun i j =>
      hnone i j (Nat.zero_le j)
    simp only [hseed]
    refine ⟨⟨?_, ?_⟩, ?_, ?_⟩
    · rintro ⟨e, he⟩
      cases he
    · rintro ⟨i, j, hclash⟩
      exact absurd hclash (hfree i j)
    · intro i j _ hclash
      exact absurd hclash (hfree i j)
    · rintro _ ⟨⟩
      exact ⟨store, rfl, hseeded, hseeded.isSome_iff⟩
  · rw [List.nil_append] at hclash hb hfirst
    simp only [hseed]
    refine ⟨⟨fun _ => ⟨i, j, hclash⟩, fun _ => ⟨_, rfl⟩⟩, ?_, ?_⟩
    · intro i' j' b' hclash' hleast hb'
      -- Seeding fails at `j`, and no clash comes before it, so `j` is the least one.
      have hle : j' ≤ j := hleast i j hclash
      have hge : ¬ j' < j := fun hlt => hfirst i' j' (Nat.zero_le j') hlt hclash'
      obtain rfl : j' = j := by omega
      obtain rfl := Option.some.inj (hb.symm.trans hb')
      exact ⟨_, rfl, rfl, message_usernameTaken b.username⟩
    · intro running hrunning
      cases hrunning

end Server

namespace Sample

/-- Alice, who is then called Al; Bob is called Alice in her place, and Dora too. -/
def renamed : List SeedAccount :=
  [⟨alice, "alice", 1⟩, ⟨alice, "al", 2⟩, ⟨bob, "alice", 3⟩, ⟨dora, "alice", 4⟩]

/-- Settings for a store in memory. -/
def seeding (seeds : List SeedAccount) : Settings where
  auth := { backend := "fake" }
  http := { address := "127.0.0.1:8080" }
  log := { filter := "info" }
  store := { backend := "memory", seedAccounts := seeds }

end Sample

namespace Server

/-- Alice's first name is free again when Bob takes it, and not when Dora does. -/
theorem start_seeds_renamed :
    let started := fun seeds =>
      start (⟨none, none⟩ : Surroundings Unit) () (Sample.seeding seeds)
    ((Sample.seeding Sample.renamed).store.backend = "memory" ∧
      (Sample.seeding Sample.renamed).auth.backend = "fake") ∧
    (started Sample.renamed).result =
      .error (.seed (.invalidArgument (.usernameTaken "alice"))) ∧
    ∃ running store, (started (Sample.renamed.take 3)).result = .ok running ∧
      running.home = .memory store ∧ store.Seeded (Sample.renamed.take 3) := by
  intro started
  have hseeds := fun seeds =>
    @start_seeds Unit ⟨none, none⟩ () (Sample.seeding seeds) rfl rfl
  -- The seeds as positions: only the last two clash.
  have hclash : Clash Sample.renamed 2 3 :=
    ⟨by decide, _, _, rfl, rfl, rfl, fun k c hk hlt => by omega⟩
  have hfirst : ∀ i j, Clash Sample.renamed i j → 3 ≤ j := by
    rintro i j ⟨hlt, a, b, ha, hb, hname, hbetween⟩
    by_contra hj
    obtain ⟨rfl, rfl⟩ | ⟨rfl, rfl⟩ | ⟨rfl, rfl⟩ :
        i = 0 ∧ j = 1 ∨ i = 0 ∧ j = 2 ∨ i = 1 ∧ j = 2 := by omega
    · cases ha
      cases hb
      exact absurd hname (by decide)
    · cases ha
      exact hbetween 1 _ (by decide) (by decide) rfl rfl
    · cases ha
      cases hb
      exact absurd hname (by decide)
  refine ⟨⟨rfl, rfl⟩, ?_, ?_⟩
  · obtain ⟨e, he, rfl, -⟩ := (hseeds Sample.renamed).2.1 2 3 _ hclash hfirst rfl
    exact he
  · obtain ⟨store, hhome, hseeded, -⟩ := (hseeds (Sample.renamed.take 3)).2.2 _ rfl
    exact ⟨_, store, rfl, hhome, hseeded⟩

end Server
end Friendship
