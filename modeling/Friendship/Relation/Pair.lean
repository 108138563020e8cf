import Friendship.Account.Id
import Friendship.Relation.Status

/-!
# Directed pairs and the rows between two accounts

Two accounts in a fixed order name one directed row, from the first to the second. The row in
the order given is the forward row of the pair, the one of the reversed pair its backward row.
-/

namespace Friendship

/-- Two accounts in a fixed order. -/
structure DirectedPair where
  first : AccountId
  second : AccountId
  deriving DecidableEq

namespace DirectedPair

def reversed (p : DirectedPair) : DirectedPair := ⟨p.second, p.first⟩

def isReflexive (p : DirectedPair) : Bool := p.first = p.second

@[simp] theorem reversed_reversed (p : DirectedPair) : p.reversed.reversed = p := rfl

/-- By first account, then by second. -/
instance : Ord DirectedPair :=
  ⟨fun p q => (compare p.first q.first).then (compare p.second q.second)⟩

theorem compare_def (p q : DirectedPair) :
    compare p q = (compare p.first q.first).then (compare p.second q.second) := rfl

/-- The order is the lexicographic one on the two ends. -/
instance : Std.TransOrd DirectedPair :=
  inferInstanceAs (Std.TransCmp (compareLex (compareOn first) (compareOn second)))

instance : Std.LawfulEqOrd DirectedPair where
  compare_self {p} := by simp [Std.ReflCmp.compare_self]
  eq_of_compare {p q} h := by
    rw [compare_def, Ordering.then_eq_eq] at h
    obtain ⟨h₁, h₂⟩ := h
    cases p; cases q
    simp only [mk.injEq]
    exact ⟨Std.LawfulEqCmp.eq_of_compare h₁, Std.LawfulEqCmp.eq_of_compare h₂⟩

end DirectedPair

/-- The statuses of the two rows of a pair, each possibly absent. -/
structure Snapshot where
  forward : Option Status := none
  backward : Option Status := none
  deriving DecidableEq, Repr, Inhabited

namespace Snapshot

/-- Neither row is there. -/
def isEmpty (s : Snapshot) : Bool := s.forward.isNone && s.backward.isNone

/-- Both rows are there with the same status. -/
def isSymmetric (s : Snapshot) (status : Status) : Bool :=
  s.forward = some status && s.backward = some status

end Snapshot

/-- One row mutation: a row is put, new or over an old one, or deleted. -/
inductive Write
  | put (row : DirectedPair) (status : Status)
  | delete (row : DirectedPair)
  deriving DecidableEq

namespace Write

/-- The row that is written. -/
def row : Write → DirectedPair
  | put row _ => row
  | delete row => row

def isPut : Write → Bool
  | put .. => true
  | delete _ => false

/-- The accounts that have to exist for the write: both ends of a put, owner first. -/
def ends : Write → List AccountId
  | put row _ => [row.first, row.second]
  | delete _ => []

/-- The status that the row has afterwards. -/
def outcome : Write → Option Status
  | put _ status => some status
  | delete _ => none

end Write
end Friendship
