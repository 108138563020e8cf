/-!
# Similar words

Two words are the more similar the more characters they share at about the same places and in
the same order. Similarity is a quotient between zero and one.
-/

namespace Friendship.Text.Similarity

/-- A numerator and a denominator. -/
structure Quotient where
  num : Nat
  den : Nat
  deriving DecidableEq, Repr

def Quotient.lt (x y : Quotient) : Bool := x.num * y.den < y.num * x.den

/-- The first place within bounds that has a character and is not taken. -/
def place? (word : List Char) (taken : List Nat) (low high : Nat) (c : Char) : Option Nat :=
  (List.range (min word.length high)).find? fun j =>
    low ≤ j && word[j]? = some c && !taken.contains j

/-- The characters of one word that are matched, from the one at `i` on, and the places taken in
the other word. -/
def matched (other : List Char) (range : Nat) : Nat → List Char → List Nat → List Char × List Nat
  | _, [], taken => ([], taken)
  | i, c :: rest, taken =>
    match place? other taken (i - range) (i + range + 1) c with
    | some j =>
      let (cs, taken) := matched other range (i + 1) rest (j :: taken)
      (c :: cs, taken)
    | none => matched other range (i + 1) rest taken

/-- The characters at taken places, in their order. -/
def takenChars (word : List Char) (taken : List Nat) : List Char :=
  (List.range word.length).filterMap fun j => if taken.contains j then word[j]? else none

/-- How similar two words are: the mean of the shares of matched characters in either word and
of those among them that are in order. -/
def similarity (a b : List Char) : Quotient :=
  if a.isEmpty && b.isEmpty then ⟨1, 1⟩
  else
    let (cs, taken) := matched b (max a.length b.length / 2 - 1) 0 a []
    let m := cs.length
    if m = 0 then ⟨0, 1⟩
    else
      let displaced := ((cs.zip (takenChars b taken)).filter fun (c, d) => c ≠ d).length / 2
      ⟨m * m * b.length + m * m * a.length + (m - displaced) * a.length * b.length,
        3 * a.length * b.length * m⟩

end Friendship.Text.Similarity
