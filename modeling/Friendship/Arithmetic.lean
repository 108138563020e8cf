/-!
# Arithmetic

Powers and sums of whole numbers are those of the core library. Where Mathlib is there too it has
powers and a zero of its own; these go before them, so that a definition is the same with Mathlib
and without.
-/

namespace Friendship

/-- A power of numbers whose kind is not told is one of natural numbers. -/
@[default_instance 20001]
instance (priority := high) powNat : Pow Nat Nat := instPowNat

@[default_instance 20000]
instance (priority := high) powInt : Pow Int Nat := instPowNat

instance (priority := high) zeroNat : Zero Nat := ⟨0⟩

end Friendship
