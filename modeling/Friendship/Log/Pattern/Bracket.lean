import Friendship.Log.Pattern.Escape
import Friendship.Log.Pattern.Nesting
import Friendship.Log.Pattern.Use

/-!
# Classes in brackets

A class names characters, ranges of them and other classes; two operands of a class may be
intersected, or one taken from the other. In front, hyphens stand for themselves, and a closing
bracket does if no hyphen stands there.
-/

namespace Friendship.Log.Pattern

/-- Characters, ranges and classes one after the other. -/
structure Operand where
  /-- Where it begins if nothing is in it. -/
  start : Place
  /-- The latest one in front. -/
  items : List Tree := []
  /-- Whether characters or ranges are among them. -/
  naming : Bool := false

namespace Operand

/-- With one more at the end. -/
def plus (o : Operand) (item : Tree) (naming : Bool) : Operand :=
  { o with items := item :: o.items, naming := o.naming || naming }

/-- From the first item up to the end of the last one. -/
def span (o : Operand) : Span :=
  match o.items.getLast?, o.items.head? with
  | some first, some last => ⟨first.span.start, last.span.stop⟩
  | _, _ => ⟨o.start, o.start⟩

def tree (o : Operand) : Tree := .join o.span o.items.reverse

def uses (o : Operand) : Uses := [(.bracket false o.naming, o.span)]

end Operand

/-- A class that is open. -/
structure Bracket where
  /-- The opening bracket and what stands there for itself or negates. -/
  head : Span
  negated : Bool
  /-- The operands before the last one, the latest in front. -/
  earlier : List Operand := []
  last : Operand

namespace Bracket

/-- The uses when the last operand ends: the first operand is looked at behind the second. -/
def operandUses (b : Bracket) : Uses :=
  match b.earlier with
  | [] => []
  | [first] => b.last.uses ++ first.uses
  | _ => b.last.uses

/-- The uses when a class ends. -/
def closingUses (b : Bracket) (span : Span) : Uses :=
  b.operandUses ++ [(.bracket b.negated (b.earlier.isEmpty && b.last.naming), span)]

/-- The operands, each taken with all before it. -/
def tree (b : Bracket) : Tree :=
  match (b.last :: b.earlier).reverse with
  | first :: rest =>
    rest.foldl (fun before o =>
      .node ⟨before.span.start, o.span.stop⟩ [before, o.tree]) first.tree
  | [] => b.last.tree

end Bracket

/-- The names of classes of ASCII characters. -/
def asciiClasses : List String :=
  ["alnum", "alpha", "ascii", "blank", "cntrl", "digit", "graph", "lower", "print", "punct",
    "space", "upper", "word", "xdigit"]

/-- Classes that are open, the innermost in front, and what was used. -/
structure ClassReader where
  reader : Reader
  brackets : List Bracket := []
  uses : Uses := []
  /-- The outermost class, once it is closed. -/
  whole : Option Tree := none

namespace ClassReader

/-- A class that never ends, from its bracket on. -/
def failUnclosed {α : Type} (c : ClassReader) : Except Error α :=
  match c.brackets with
  | b :: _ => .error ⟨.classUnclosed, b.head, none⟩
  | [] => c.reader.failHere .classUnclosed

/-- Adds an item to the innermost class; the reader is behind it. -/
def addItem (c : ClassReader) (reader : Reader) (item : Tree) (naming : Bool) : ClassReader :=
  match c.brackets with
  | b :: rest => { c with reader, brackets := { b with last := b.last.plus item naming } :: rest }
  | [] => { c with reader, whole := some item }

/-- Adds an item that is a leaf, and a use of it. -/
def add (c : ClassReader) (reader : Reader) (span : Span) (naming : Bool) (use : Use) :
    ClassReader :=
  { c with uses := c.uses ++ [(use, span)] }.addItem reader (.leaf span) naming

/-- Hyphens in front of a class that begins at a place, at most a number of them. -/
def hyphens (start : Place) (o : Operand) : Nat → Reader → Except Error (Operand × Reader)
  | 0, r => .ok (o, r)
  | n + 1, r =>
    if r.next? = some '-' then
      if r.step.atEnd then .error ⟨.classUnclosed, ⟨start, start⟩, none⟩
      else hyphens start (o.plus (.leaf r.char) true) n r.step
    else .ok (o, r)

/-- Goes a step on in front of a class that begins at a place. -/
def inside (start : Place) (r : Reader) : Except Error Reader :=
  if r.step.atEnd then r.step.failSince start .classUnclosed else .ok r.step

/-- Opens the class whose bracket is next. -/
def opened (c : ClassReader) : Except Error ClassReader := do
  let start := c.reader.place
  let first ← inside start c.reader
  let negated := first.next? == some '^'
  let first ← if negated then inside start first else pure first
  let (last, r) ← hyphens start { start := first.place } first.rest.length first
  let (last, r) ←
    if last.items.isEmpty && r.next? == some ']' then
      pure (last.plus (.leaf r.char) true, ← inside start r)
    else pure (last, r)
  pure { c with reader := r, brackets := { head := r.since start, negated, last } :: c.brackets }

/-- Closes the innermost class. -/
def closed (c : ClassReader) : ClassReader :=
  match c.brackets with
  | b :: rest =>
    let reader := c.reader.forward
    let span := reader.since b.head.start
    { c with brackets := rest, uses := c.uses ++ b.closingUses span }.addItem reader
      (.node span [b.tree]) false
  | [] => c

/-- Begins another operand of the innermost class. -/
def operated (c : ClassReader) : ClassReader :=
  match c.brackets with
  | b :: rest =>
    let reader := c.reader.forwardBy 2
    let next := { b with earlier := b.last :: b.earlier, last := { start := reader.place } }
    { c with reader, brackets := next :: rest, uses := c.uses ++ b.operandUses }
  | [] => c

/-- The class of ASCII characters that is next: a name between colons in brackets. -/
def ascii? (c : ClassReader) : Option ClassReader := do
  let r ← c.reader.behind? "[:"
  let negated := r.next? == some '^'
  let r := if negated then r.forward else r
  let name := r.rest.takeWhile (· ≠ ':')
  let last ← (r.forwardBy name.length).behind? ":]"
  if asciiClasses.contains (String.ofList name) then
    some (c.add last (last.since c.reader.place) false (.bracket negated true))
  else none

/-- What is next, taken by itself, and what it spans. -/
def atom (r : Reader) : Except Error (Atom × Span × Reader) := do
  match r.next? with
  | some '\\' =>
    let (atom, last) ← r.escape
    pure (atom, last.since r.place, last)
  | some c => pure (.plain c, r.char, r.forward)
  | none => r.failHere .classUnclosed

/-- Adds a character or a class. -/
def withAtom (c : ClassReader) (atom : Atom) (span : Span) (behind : Reader) :
    Except Error ClassReader :=
  match atom with
  | .literal x ofByte => .ok (c.add behind span true (.member x ofByte))
  | .perl negated => .ok (c.add behind span false (.perl negated))
  | .property => .ok (c.add behind span false .property)
  | .any | .wordEdge | .edge => .error ⟨.classEscape, span, none⟩

/-- An end of a range. -/
def rangeEnd (atom : Atom) (span : Span) : Except Error (Char × Use) :=
  match atom with
  | .literal x ofByte => .ok (x, .member x ofByte)
  | _ => .error ⟨.classRangeEnd, span, none⟩

/-- Adds a range from a character to the next one. -/
def withRange (c : ClassReader) (first : Atom) (span : Span) (behind : Reader) :
    Except Error ClassReader := do
  let (last, lastSpan, behind) ← atom behind
  let whole : Span := ⟨span.start, lastSpan.stop⟩
  let (low, lowUse) ← rangeEnd first span
  let (high, highUse) ← rangeEnd last lastSpan
  if high < low then throw ⟨.classRange, whole, none⟩
  let uses := c.uses ++ [(lowUse, span), (highUse, lastSpan)]
  pure ({ c with uses }.addItem behind (.leaf whole) true)

/-- Adds the next item: a hyphen makes a range, but not in front of another hyphen or the end. -/
def withItem (c : ClassReader) : Except Error ClassReader := do
  let (first, span, behind) ← atom c.reader
  let behind := behind.behindGap
  if behind.atEnd then c.failUnclosed
  else if behind.next? ≠ some '-' || [some ']', some '-'].contains behind.second? then
    c.withAtom first span behind
  else if behind.step.atEnd then c.failUnclosed
  else c.withRange first span behind.step

/-- Goes on inside a class. -/
def next (c : ClassReader) : Except Error ClassReader :=
  let c := { c with reader := c.reader.behindGap }
  match c.reader.rest with
  | [] => c.failUnclosed
  | '[' :: _ =>
    match c.ascii? with
    | some c => .ok c
    | none => c.opened
  | ']' :: _ => .ok c.closed
  | '&' :: '&' :: _ | '-' :: '-' :: _ | '~' :: '~' :: _ => .ok c.operated
  | _ => c.withItem

/-- Goes on until all classes are closed; each step takes a character at least. -/
def finish : Nat → ClassReader → Except Error ClassReader
  | 0, c => c.failUnclosed
  | n + 1, c => if c.brackets.isEmpty then .ok c else do finish n (← c.next)

/-- Reads the class whose bracket is next. -/
def read (r : Reader) : Except Error (Uses × Tree × Reader) := do
  let c ← finish r.rest.length (← opened { reader := r })
  pure (c.uses, c.whole.getD (.leaf (c.reader.since r.place)), c.reader)

end ClassReader
end Friendship.Log.Pattern
