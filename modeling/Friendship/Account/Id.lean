/-!
# Account ids

An id is sixteen bytes. Ids are compared byte by byte, each byte unsigned, the first
difference deciding.
-/

namespace Friendship

/-- Sixteen bytes naming an account. -/
structure AccountId where
  bytes : List UInt8
  length_bytes : bytes.length = 16
  deriving DecidableEq

namespace AccountId

theorem ext_bytes {a b : AccountId} (h : a.bytes = b.bytes) : a = b := by
  cases a; cases b; simp_all

/-- The id made of exactly sixteen bytes. -/
def ofBytes? (bs : List UInt8) : Option AccountId :=
  if h : bs.length = 16 then some ⟨bs, h⟩ else none

instance : Inhabited AccountId := ⟨⟨List.replicate 16 0, by simp⟩⟩

instance : Ord AccountId := ⟨fun a b => compare a.bytes b.bytes⟩

theorem compare_def (a b : AccountId) : compare a b = compare a.bytes b.bytes := rfl

instance : Std.TransOrd AccountId where
  eq_swap {a b} := by
    simp only [compare_def]; exact Std.OrientedCmp.eq_swap
  isLE_trans {a b c} hab hbc := by
    simp only [compare_def] at hab hbc ⊢; exact Std.TransCmp.isLE_trans hab hbc

instance : Std.LawfulEqOrd AccountId where
  compare_self {a} := by simp only [compare_def]; exact Std.ReflCmp.compare_self
  eq_of_compare {a b} h := by
    simp only [compare_def] at h; exact ext_bytes (Std.LawfulEqCmp.eq_of_compare h)

end AccountId
end Friendship
