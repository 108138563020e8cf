/-!
# Finite tables

A table holds at most one value per key, its entries in ascending order of the keys. What a
table holds is told by look-up: `get?_insert` and `get?_erase` say what each change does to it,
and `mem_toList_iff` that the entries listed are those that look-up finds.
-/

namespace Friendship

/-- Entries in strictly ascending order of their keys. -/
structure Table (κ ν : Type) [Ord κ] where
  entries : List (κ × ν)
  ascending : entries.Pairwise fun e f => compare e.1 f.1 = .lt

namespace Table

variable {κ ν : Type} [Ord κ]

/-- The first value of a key. -/
def find? (key : κ) : List (κ × ν) → Option ν
  | [] => none
  | (k, v) :: rest => if compare key k = .eq then some v else find? key rest

/-- The entries with a key's value put in, before the first greater key. -/
def place (key : κ) (value : ν) : List (κ × ν) → List (κ × ν)
  | [] => [(key, value)]
  | (k, v) :: rest =>
    match compare key k with
    | .lt => (key, value) :: (k, v) :: rest
    | .eq => (key, value) :: rest
    | .gt => (k, v) :: place key value rest

/-- The entries of the other keys. -/
def without (key : κ) (entries : List (κ × ν)) : List (κ × ν) :=
  entries.filter fun e => compare key e.1 != .eq

theorem mem_place {key : κ} {value : ν} {entries : List (κ × ν)} {e : κ × ν}
    (h : e ∈ place key value entries) : e = (key, value) ∨ e ∈ entries := by
  fun_induction place key value entries with
  | case1 => simpa using h
  | case2 => simpa using h
  | case3 =>
    rcases List.mem_cons.1 h with rfl | h
    · exact Or.inl rfl
    · exact Or.inr (List.mem_cons_of_mem _ h)
  | case4 k v rest _ ih =>
    rcases List.mem_cons.1 h with rfl | h
    · exact Or.inr List.mem_cons_self
    · exact (ih h).imp_right (List.mem_cons_of_mem _)

def empty : Table κ ν := ⟨[], List.Pairwise.nil⟩

/-- The value of a key. -/
def get? (t : Table κ ν) (key : κ) : Option ν := find? key t.entries

/-- The table without a key. -/
def erase (t : Table κ ν) (key : κ) : Table κ ν :=
  ⟨without key t.entries, t.ascending.filter _⟩

def toList (t : Table κ ν) : List (κ × ν) := t.entries

def values (t : Table κ ν) : List ν := t.entries.map Prod.snd

@[simp] theorem get?_empty (key : κ) : (empty : Table κ ν).get? key = none := rfl

section Lawful

variable [Std.TransOrd κ]

theorem ascending_place (key : κ) (value : ν) (entries : List (κ × ν))
    (h : entries.Pairwise fun e f => compare e.1 f.1 = .lt) :
    (place key value entries).Pairwise fun e f => compare e.1 f.1 = .lt := by
  fun_induction place key value entries with
  | case1 => simp
  | case2 k v rest hlt =>
    refine List.pairwise_cons.2 ⟨?_, h⟩
    intro e he
    rcases List.mem_cons.1 he with rfl | he
    · exact hlt
    · exact Std.TransCmp.lt_trans hlt ((List.pairwise_cons.1 h).1 e he)
  | case3 k v rest heq =>
    obtain ⟨hk, hrest⟩ := List.pairwise_cons.1 h
    exact List.pairwise_cons.2
      ⟨fun e he => Std.TransCmp.lt_of_eq_of_lt heq (hk e he), hrest⟩
  | case4 k v rest hgt ih =>
    obtain ⟨hk, hrest⟩ := List.pairwise_cons.1 h
    refine List.pairwise_cons.2 ⟨?_, ih hrest⟩
    intro e he
    rcases mem_place he with rfl | he
    · exact Std.OrientedCmp.gt_iff_lt.1 hgt
    · exact hk e he

/-- The table with a key's value put in, over an old one if there is one. -/
def insert (t : Table κ ν) (key : κ) (value : ν) : Table κ ν :=
  ⟨place key value t.entries, ascending_place key value t.entries t.ascending⟩

variable [Std.LawfulEqOrd κ]

theorem find?_place (key other : κ) (value : ν) (entries : List (κ × ν)) :
    find? other (place key value entries) =
      if compare other key = .eq then some value else find? other entries := by
  fun_induction place key value entries with
  | case1 => simp [find?]
  | case2 k v rest hlt => simp [find?]
  | case3 k v rest heq =>
    have : key = k := Std.LawfulEqCmp.eq_of_compare heq
    subst this
    by_cases h : compare other key = .eq <;> simp [find?, h]
  | case4 k v rest hgt ih =>
    by_cases h : compare other k = .eq
    · have : other = k := Std.LawfulEqCmp.eq_of_compare h
      subst this
      have hne : compare other key ≠ .eq := by
        rw [Std.OrientedCmp.gt_iff_lt.1 hgt]; decide
      simp [find?, hne]
    · simp [find?, h, ih]

theorem find?_without (key other : κ) (entries : List (κ × ν)) :
    find? other (without key entries) =
      if compare other key = .eq then none else find? other entries := by
  induction entries with
  | nil => simp [without, find?]
  | cons e rest ih =>
    obtain ⟨k, v⟩ := e
    unfold without at ih ⊢
    by_cases hk : compare key k = .eq
    · have : key = k := Std.LawfulEqCmp.eq_of_compare hk
      subst this
      by_cases h : compare other key = .eq <;> simp [find?, h, ih]
    · simp only [List.filter_cons, bne_iff_ne, ne_eq, hk, not_false_eq_true, if_true, find?, ih]
      by_cases h : compare other k = .eq
      · have : other = k := Std.LawfulEqCmp.eq_of_compare h
        subst this
        have hne : compare other key ≠ .eq := by
          intro h'; exact hk (by rw [Std.OrientedCmp.eq_comm]; exact h')
        simp [hne]
      · simp [h]

theorem get?_insert (t : Table κ ν) (key other : κ) (value : ν) :
    (t.insert key value).get? other =
      if compare other key = .eq then some value else t.get? other :=
  find?_place key other value t.entries

theorem get?_erase (t : Table κ ν) (key other : κ) :
    (t.erase key).get? other = if compare other key = .eq then none else t.get? other :=
  find?_without key other t.entries

@[simp] theorem get?_insert_self (t : Table κ ν) (key : κ) (value : ν) :
    (t.insert key value).get? key = some value := by
  simp [get?_insert]

@[simp] theorem get?_erase_self (t : Table κ ν) (key : κ) : (t.erase key).get? key = none := by
  simp [get?_erase]

theorem get?_insert_of_ne (t : Table κ ν) {key other : κ} (value : ν) (h : other ≠ key) :
    (t.insert key value).get? other = t.get? other := by
  simp [get?_insert, h]

theorem get?_erase_of_ne (t : Table κ ν) {key other : κ} (h : other ≠ key) :
    (t.erase key).get? other = t.get? other := by
  simp [get?_erase, h]

omit [Std.TransOrd κ] in
theorem mem_toList_of_get? {t : Table κ ν} {key : κ} {value : ν} (h : t.get? key = some value) :
    (key, value) ∈ t.toList := by
  unfold get? at h
  unfold toList
  revert h
  generalize t.entries = entries
  intro h
  induction entries with
  | nil => simp [find?] at h
  | cons e rest ih =>
    obtain ⟨k, v⟩ := e
    by_cases hk : compare key k = .eq
    · have : key = k := Std.LawfulEqCmp.eq_of_compare hk
      subst this
      simp [find?] at h
      simp [h]
    · simp [find?, hk] at h
      exact List.mem_cons_of_mem _ (ih h)

theorem get?_of_mem_toList {t : Table κ ν} {key : κ} {value : ν} (h : (key, value) ∈ t.toList) :
    t.get? key = some value := by
  obtain ⟨entries, ascending⟩ := t
  simp only [toList, get?] at h ⊢
  induction entries with
  | nil => simp at h
  | cons e rest ih =>
    obtain ⟨k, v⟩ := e
    obtain ⟨hk, hrest⟩ := List.pairwise_cons.1 ascending
    rcases List.mem_cons.1 h with heq | h
    · cases heq; simp [find?]
    · have hlt := hk _ h
      have hne : compare key k ≠ .eq := by
        rw [Std.OrientedCmp.gt_iff_lt.2 hlt]; decide
      simp [find?, hne, ih hrest h]

theorem mem_toList_iff {t : Table κ ν} {key : κ} {value : ν} :
    (key, value) ∈ t.toList ↔ t.get? key = some value :=
  ⟨get?_of_mem_toList, mem_toList_of_get?⟩

omit [Std.TransOrd κ] in
/-- If the entries of all keys but one give nothing, only the value of that key counts. -/
theorem flatMap_toList {β : Type} (t : Table κ ν) (key : κ) {f : κ × ν → List β}
    (h : ∀ e ∈ t.toList, e.1 ≠ key → f e = []) :
    t.toList.flatMap f = (t.get? key).elim [] fun value => f (key, value) := by
  obtain ⟨entries, ascending⟩ := t
  simp only [toList, get?] at h ⊢
  induction entries with
  | nil => rfl
  | cons e rest ih =>
    obtain ⟨k, v⟩ := e
    obtain ⟨hk, hrest⟩ := List.pairwise_cons.1 ascending
    rw [List.flatMap_cons]
    by_cases hkey : compare key k = .eq
    · obtain rfl : key = k := Std.LawfulEqCmp.eq_of_compare hkey
      have hnone : rest.flatMap f = [] := by
        refine List.flatMap_eq_nil_iff.2 fun e he => h e (List.mem_cons_of_mem _ he) ?_
        intro heq
        have hlt := hk e he
        simp [heq] at hlt
      simp [hnone, find?]
    · have hne : k ≠ key := by
        rintro rfl
        exact hkey Std.ReflCmp.compare_self
      rw [h (k, v) List.mem_cons_self hne, ih hrest fun e he => h e (List.mem_cons_of_mem _ he)]
      simp [find?, hkey]

end Lawful
end Table
end Friendship
