import Friendship.Log.Pattern.Fault

/-!
# How deep a pattern is nested

Groups, repetitions, classes, operations on them, and sequences and alternatives of more than one
part each make a level around their parts. A pattern has so many levels at most.
-/

namespace Friendship.Log.Pattern

/-- What parts a pattern is made of. -/
inductive Tree
  | leaf (span : Span)
  | node (span : Span) (parts : List Tree)

namespace Tree

def nestingLimit : Nat := 250

def span : Tree → Span
  | leaf span | node span _ => span

/-- A part that is made of others, unless there is one of them alone or none. -/
def join (span : Span) : List Tree → Tree
  | [] => leaf span
  | [part] => part
  | parts => node span parts

mutual

/-- The first part that is below a number of levels. -/
def beyond? : Nat → Tree → Option Span
  | _, leaf _ => none
  | 0, node span _ => some span
  | limit + 1, node _ parts => anyBeyond? limit parts

def anyBeyond? (limit : Nat) : List Tree → Option Span
  | [] => none
  | part :: rest => (beyond? limit part).or (anyBeyond? limit rest)

end

/-- The error of a part that is nested too deep. -/
def error? (tree : Tree) : Option Error :=
  (tree.beyond? nestingLimit).map fun span => ⟨.nesting nestingLimit, span, none⟩

end Tree

/-- The parts of a group so far. -/
structure Contents where
  /-- Where the first alternative begins. -/
  start : Place
  /-- The alternatives before the last one, the latest in front. -/
  earlier : List Tree := []
  /-- Where the last alternative begins. -/
  lastStart : Place
  /-- The parts of the last alternative, the latest in front. -/
  parts : List Tree := []

namespace Contents

/-- The contents of a group that begins at a place. -/
def startingAt (place : Place) : Contents := { start := place, lastStart := place }

def add (c : Contents) (part : Tree) : Contents := { c with parts := part :: c.parts }

/-- The last part is repeated, up to a place. -/
def repeated (c : Contents) (stop : Place) : Contents :=
  match c.parts with
  | part :: rest => { c with parts := .node ⟨part.span.start, stop⟩ [part] :: rest }
  | [] => c

/-- The last alternative, up to a place. -/
def last (c : Contents) (stop : Place) : Tree := .join ⟨c.lastStart, stop⟩ c.parts.reverse

/-- Ends an alternative at a place; the next one begins behind it. -/
def alternate (c : Contents) (stop next : Place) : Contents :=
  { c with earlier := c.last stop :: c.earlier, lastStart := next, parts := [] }

/-- All contents up to a place. -/
def tree (c : Contents) (stop : Place) : Tree :=
  .join ⟨c.start, stop⟩ (c.earlier.reverse ++ [c.last stop])

end Contents
end Friendship.Log.Pattern
