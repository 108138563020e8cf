/-!
# Relation status

A stored relation is pending, accepted or blocked. Each status has one text, and no other text
is read as a status.
-/

namespace Friendship

inductive Status
  | pending
  | accepted
  | blocked
  deriving DecidableEq, Repr, Inhabited

namespace Status

def text : Status → String
  | pending => "pending"
  | accepted => "accepted"
  | blocked => "blocked"

instance : ToString Status := ⟨text⟩

def ofText? : String → Option Status
  | "pending" => some pending
  | "accepted" => some accepted
  | "blocked" => some blocked
  | _ => none

/-- What is said of a text that is no status. -/
def unknownText (s : String) : String := s!"unknown relation status: {s}"

@[simp] theorem ofText?_text (s : Status) : ofText? s.text = some s := by cases s <;> rfl

theorem ofText?_eq_some_iff {t : String} {s : Status} : ofText? t = some s ↔ t = s.text := by
  constructor
  · intro h
    unfold ofText? at h
    split at h <;> simp_all [text] <;> subst h <;> rfl
  · rintro rfl; exact ofText?_text s

end Status
end Friendship
