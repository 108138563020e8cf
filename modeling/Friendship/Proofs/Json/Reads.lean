import Friendship.Json.Decode

/-!
# What readers do

A reader either reads a value and leaves another cursor (`Reads`), or fails and leaves the cursor
where it stopped (`Fails`). The lemmas say so for each way of making readers, so that a reader can
be followed step by step.
-/
namespace Friendship.Json.Reader

variable {α β : Type} {r : Reader α} {f : α → Reader β} {a : α} {b : β} {c c' c'' : Cursor}

/-- What a reader comes to, and where it stops. -/
def resultAt (r : Reader α) (c : Cursor) : Except Error α × Cursor := (ExceptT.run r).run c

/-- A reader reads a value between two cursors. -/
def Reads (r : Reader α) (c : Cursor) (a : α) (c' : Cursor) : Prop := resultAt r c = (.ok a, c')

/-- A reader fails on the way between two cursors. -/
def Fails (r : Reader α) (c c' : Cursor) : Prop := ∃ e, resultAt r c = (.error e, c')

/-- A reader stops at a cursor, be it that it read a value or that it failed. -/
def Stops (r : Reader α) (c c' : Cursor) : Prop := (∃ a, Reads r c a c') ∨ Fails r c c'

/-- A reader reads one value at most. -/
theorem Reads.unique {a' : α} (h : Reads r c a c') (h' : Reads r c a' c'') :
    a = a' ∧ c' = c'' := by
  simpa using h.symm.trans h'

theorem Reads.not_fails (h : Reads r c a c') : ¬ Fails r c c'' := by
  rintro ⟨e, h'⟩
  simpa using h.symm.trans h'

theorem Reads.eq_of_stops (h : Reads r c a c') (h' : Stops r c c'') : c' = c'' := by
  obtain ⟨a', h'⟩ | h' := h'
  · exact (h.unique h').2
  · exact absurd h' h.not_fails

/-! ### One reader after another -/

theorem resultAt_bind (r : Reader α) (f : α → Reader β) (c : Cursor) :
    resultAt (r >>= f) c =
      match resultAt r c with
      | (.ok a, c') => resultAt (f a) c'
      | (.error e, c') => (.error e, c') := by
  have hbind : resultAt (r >>= f) c =
      ((ExceptT.run r).run c >>= fun p => (ExceptT.bindCont f p.1).run p.2) := rfl
  rw [hbind]
  unfold resultAt
  generalize (ExceptT.run r).run c = p
  obtain ⟨_ | _, _⟩ := p <;> rfl

theorem reads_bind :
    Reads (r >>= f) c b c'' ↔ ∃ a c', Reads r c a c' ∧ Reads (f a) c' b c'' := by
  unfold Reads
  rw [resultAt_bind]
  cases resultAt r c with
  | mk result c₁ => cases result <;> simp [and_assoc]

theorem fails_bind :
    Fails (r >>= f) c c'' ↔ Fails r c c'' ∨ ∃ a c', Reads r c a c' ∧ Fails (f a) c' c'' := by
  unfold Reads Fails
  rw [resultAt_bind]
  cases resultAt r c with
  | mk result c₁ => cases result <;> simp [and_assoc]

@[simp] theorem reads_pure {a' : α} : Reads (pure a') c a c' ↔ a' = a ∧ c = c' := by
  have hresult : resultAt (pure a' : Reader α) c = (.ok a', c) := rfl
  simp [Reads, hresult]

@[simp] theorem not_fails_pure : ¬ Fails (pure a) c c' :=
  (reads_pure.2 ⟨rfl, rfl⟩).not_fails

@[simp] theorem reads_map {g : α → β} : Reads (g <$> r) c b c' ↔ ∃ a, Reads r c a c' ∧ g a = b := by
  rw [← bind_pure_comp, reads_bind]
  constructor
  · rintro ⟨a, c₁, h, hpure⟩
    obtain ⟨rfl, rfl⟩ := reads_pure.1 hpure
    exact ⟨a, h, rfl⟩
  · rintro ⟨a, h, rfl⟩
    exact ⟨a, c', h, reads_pure.2 ⟨rfl, rfl⟩⟩

@[simp] theorem fails_map {g : α → β} : Fails (g <$> r) c c' ↔ Fails r c c' := by
  rw [← bind_pure_comp, fails_bind]
  simp

/-- Behind a value that is read, the readers stop where the second one does. -/
theorem stops_bind_of_reads (h : Reads r c a c') (h' : Stops (r >>= f) c c'') :
    Stops (f a) c' c'' := by
  obtain ⟨b, h'⟩ | h' := h'
  · obtain ⟨a', c₁, hread, h'⟩ := reads_bind.1 h'
    obtain ⟨rfl, rfl⟩ := h.unique hread
    exact Or.inl ⟨b, h'⟩
  · obtain h' | ⟨a', c₁, hread, h'⟩ := fails_bind.1 h'
    · exact absurd h' h.not_fails
    · obtain ⟨rfl, rfl⟩ := h.unique hread
      exact Or.inr h'

@[simp] theorem stops_pure : Stops (pure a) c c' ↔ c = c' := by
  simp [Stops]

/-- Readers stop where the first one does if the second one moves nothing. -/
theorem stops_of_stops_bind (h : ∀ a c c', Stops (f a) c c' → c = c') (h' : Stops (r >>= f) c c') :
    Stops r c c' := by
  obtain ⟨b, h'⟩ | h' := h'
  · obtain ⟨a, c₁, hread, h'⟩ := reads_bind.1 h'
    obtain rfl := h a c₁ c' (Or.inl ⟨b, h'⟩)
    exact Or.inl ⟨a, hread⟩
  · obtain h' | ⟨a, c₁, hread, h'⟩ := fails_bind.1 h'
    · exact Or.inr h'
    · obtain rfl := h a c₁ c' (Or.inr h')
      exact Or.inl ⟨a, hread⟩

@[simp] theorem stops_map {g : α → β} : Stops (g <$> r) c c' ↔ Stops r c c' := by
  simp only [Stops, reads_map, fails_map]
  rw [exists_comm]
  simp

/-! ### Faults -/

@[simp] theorem not_reads_throw {e : Error} : ¬ Reads (throw e : Reader α) c a c' := by
  have hresult : resultAt (throw e : Reader α) c = (.error e, c) := rfl
  simp [Reads, hresult]

@[simp] theorem fails_throw {e : Error} : Fails (throw e : Reader α) c c' ↔ c = c' := by
  have hresult : resultAt (throw e : Reader α) c = (.error e, c) := rfl
  simp [Fails, hresult]

@[simp] theorem reads_get {d : Cursor} : Reads get c d c' ↔ c = d ∧ c = c' := by
  have hresult : resultAt get c = (.ok c, c) := rfl
  simp [Reads, hresult]

@[simp] theorem not_fails_get : ¬ Fails get c c' := (reads_get.2 ⟨rfl, rfl⟩).not_fails

@[simp] theorem not_reads_failHere {fault : Fault} :
    ¬ Reads (failHere fault : Reader α) c a c' := by
  simp [failHere, reads_bind]

@[simp] theorem fails_failHere {fault : Fault} :
    Fails (failHere fault : Reader α) c c' ↔ c = c' := by
  simp [failHere, fails_bind, and_assoc]

@[simp] theorem not_reads_failNext {fault : Fault} :
    ¬ Reads (failNext fault : Reader α) c a c' := by
  simp [failNext, reads_bind]

@[simp] theorem fails_failNext {fault : Fault} :
    Fails (failNext fault : Reader α) c c' ↔ c = c' := by
  simp [failNext, fails_bind, and_assoc]

@[simp] theorem stops_failNext {fault : Fault} :
    Stops (failNext fault : Reader α) c c' ↔ c = c' := by
  simp [Stops]

@[simp] theorem not_reads_failValue {fault : Fault} :
    ¬ Reads (failValue fault : Reader α) c a c' := by
  simp [failValue]

/-! ### Moving on -/

/-- The cursor behind all next bytes of a kind. -/
def behind (kind : UInt8 → Bool) (c : Cursor) : Cursor := dropWhile kind c.rest c

@[simp] theorem reads_modify {g : Cursor → Cursor} {u : Unit} :
    Reads (modify g) c u c' ↔ g c = c' := by
  have hresult : resultAt (modify g) c = (.ok (), g c) := rfl
  simp [Reads, hresult]

@[simp] theorem reads_peek {next : Option UInt8} :
    Reads peek c next c' ↔ c.rest.head? = next ∧ c = c' := by
  simp [peek, reads_map, and_assoc, and_comm]

@[simp] theorem not_fails_peek : ¬ Fails peek c c' := (reads_peek.2 ⟨rfl, rfl⟩).not_fails

@[simp] theorem reads_peekWhile {kind : UInt8 → Bool} {bs : List UInt8} :
    Reads (peekWhile kind) c bs c' ↔ c.rest.takeWhile kind = bs ∧ c = c' := by
  simp [peekWhile, reads_map, and_assoc, and_comm]

@[simp] theorem not_fails_peekWhile {kind : UInt8 → Bool} : ¬ Fails (peekWhile kind) c c' :=
  (reads_peekWhile.2 ⟨rfl, rfl⟩).not_fails

@[simp] theorem reads_skip {u : Unit} : Reads skip c u c' ↔ c.advance = c' := reads_modify

@[simp] theorem not_fails_skip : ¬ Fails skip c c' := (reads_skip (u := ()).2 rfl).not_fails

@[simp] theorem reads_skipWhile {kind : UInt8 → Bool} {u : Unit} :
    Reads (skipWhile kind) c u c' ↔ behind kind c = c' := reads_modify

@[simp] theorem not_fails_skipWhile {kind : UInt8 → Bool} : ¬ Fails (skipWhile kind) c c' :=
  (reads_skipWhile (u := ()).2 rfl).not_fails

@[simp] theorem reads_next {next : Option UInt8} :
    Reads Reader.next c next c' ↔ c.rest.head? = next ∧ c.advance = c' := by
  simp [Reader.next, reads_bind, reads_map, and_assoc, and_comm]

@[simp] theorem not_fails_next : ¬ Fails Reader.next c c' := (reads_next.2 ⟨rfl, rfl⟩).not_fails

/-- Blanks are left behind; the byte after them stays. -/
@[simp] theorem reads_afterBlanks {next : Option UInt8} :
    Reads afterBlanks c next c' ↔
      (behind isBlank c).rest.head? = next ∧ behind isBlank c = c' := by
  simp [afterBlanks, reads_bind, and_comm]

/-! ### Faults that are caught -/

theorem resultAt_tryCatch (r : Reader α) (handle : Error → Reader α) (c : Cursor) :
    resultAt (tryCatch r handle) c =
      match resultAt r c with
      | (.ok a, c') => (.ok a, c')
      | (.error e, c') => resultAt (handle e) c' := by
  have hinstance : resultAt (tryCatch r handle) c = resultAt (ExceptT.tryCatch r handle) c := rfl
  rw [hinstance]
  unfold resultAt ExceptT.tryCatch
  rw [ExceptT.run_mk, StateT.run_bind]
  have hrun : StateT.run r c = (ExceptT.run r).run c := rfl
  rw [hrun]
  generalize (ExceptT.run r).run c = p
  obtain ⟨_ | _, _⟩ := p <;> rfl

/-- The place of a fault has nothing to do with what is read. -/
@[simp] theorem reads_placed : Reads (placed r) c a c' ↔ Reads r c a c' := by
  unfold Reads placed
  rw [resultAt_tryCatch]
  cases resultAt r c with
  | mk result c₁ =>
    cases result with
    | ok a => rfl
    | error e =>
      obtain ⟨fault, _ | position⟩ := e
      · have hfails : ¬ Reads (do throw ⟨fault, some (← get).position⟩ : Reader α) c₁ a c' := by
          simp [reads_bind]
        simpa [Reads] using hfails
      · have hfails : ¬ Reads (throw ⟨fault, some position⟩ : Reader α) c₁ a c' := by simp
        simpa [Reads] using hfails

/-- The outcome of a reader is always read. -/
theorem reads_outcome {result : Except Error α} :
    Reads (outcome r) c result c' ↔ resultAt r c = (result, c') := by
  have hread : resultAt (do pure (Except.ok (← r)) : Reader (Except Error α)) c =
      match resultAt r c with
      | (.ok a, c') => (.ok (.ok a), c')
      | (.error e, c') => (.error e, c') := resultAt_bind r (fun a => pure (Except.ok a)) c
  unfold Reads outcome
  rw [resultAt_tryCatch, hread]
  cases resultAt r c with
  | mk inner c₁ =>
    cases inner with
    | ok a => simp
    | error e =>
      have hpure : resultAt (pure (.error e) : Reader (Except Error α)) c₁ = (.ok (.error e), c₁) :=
        rfl
      simp [hpure]

/-- What is enclosed and its end are read one after the other. -/
@[simp] theorem reads_enclosed {ending : Reader Unit} :
    Reads (enclosed r ending) c a c' ↔ ∃ c₁, Reads r c a c₁ ∧ Reads ending c₁ () c' := by
  simp only [enclosed, reads_bind, reads_outcome]
  constructor
  · rintro ⟨result, c₁, hresult, ended, c₂, hended, hread⟩
    rcases result with e | a'
    · simp at hread
    · rcases ended with e | u
      · simp at hread
      · obtain ⟨rfl, rfl⟩ := reads_pure.1 hread
        exact ⟨c₁, hresult, hended⟩
  · rintro ⟨c₁, hread, hended⟩
    exact ⟨.ok a, c₁, hread, .ok (), c', hended, reads_pure.2 ⟨rfl, rfl⟩⟩

end Friendship.Json.Reader
