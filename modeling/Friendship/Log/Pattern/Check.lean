import Friendship.Arithmetic
import Friendship.Log.Pattern.Bracket

/-!
# Which patterns are taken

A pattern is read to its end: what breaks the grammar comes before what is nested too deep, and
that before what is not supported. A pattern of a filter stands in braces and between commas, so
that it holds neither a closing brace nor a comma, and a count of repetitions never ends.
-/

namespace Friendship.Log.Pattern

open Text.Alphanumeric (isAlphanumeric isLetter)

/-- A group that is open. -/
structure Group where
  opening : Span
  /-- The modes outside. -/
  modes : Modes
  /-- What was read outside, in front of it. -/
  contents : Contents

/-- What flags in parentheses say, in the order given. -/
inductive Flag
  | negation
  | letter (c : Char)
  deriving DecidableEq

/-- Flags and where they stand, the latest in front. -/
abbrev Flags := List (Flag × Span)

namespace Flags

def letters : List Char := ['i', 'm', 's', 'U', 'u', 'R', 'x']

/-- Modes changed by flags in the order given; those behind a negation are turned off. -/
def change ( on : Bool) (modes : Modes) : List Flag → Modes
  | [] => modes
  | .negation :: rest => change false modes rest
  | .letter c :: rest =>
    let modes := match c with
      | 'i' => { modes with caseless := on }
      | 'u' => { modes with unicode := on }
      | 'x' => { modes with spacious := on }
      | _ => modes
    change on modes rest

/-- Modes changed by flags. -/
def apply (flags : Flags) (modes : Modes) : Modes :=
  change true modes (flags.reverse.map (·.1))

/-- Where a flag stands already. -/
def place? (flags : Flags) (flag : Flag) : Option Span :=
  (flags.find? fun (f, _) => f == flag).map (·.2)

end Flags

namespace Reader

/-- The flag that is next. -/
def flag (flags : Flags) (r : Reader) : Except Error (Flag × Span) :=
  match r.next? with
  | none => r.failHere .flagUnfinished
  | some c => do
    if c ≠ '-' ∧ !Flags.letters.contains c then r.failChar .flagUnknown
    let flag := if c = '-' then Flag.negation else .letter c
    match flags.place? flag with
    | none => pure (flag, r.char)
    | some earlier =>
      let fault := if c = '-' then Fault.flagNegationRepeated else .flagDuplicate
      throw ⟨fault, r.char, some earlier⟩

/-- Flags up to a colon or a closing parenthesis, at most a number of them. -/
def flags (soFar : Flags) : Nat → Reader → Except Error (Flags × Reader)
  | 0, r => r.failHere .flagUnfinished
  | n + 1, r => do
    if r.next? = some ':' ∨ r.next? = some ')' then
      match soFar with
      | (.negation, span) :: _ => throw ⟨.flagNegationDangling, span, none⟩
      | _ => pure (soFar, r)
    else
      let flag ← r.flag soFar
      flags (flag :: soFar) n r.forward

/-- The name of a group up to an angle bracket. -/
def groupName (r : Reader) : Except Error (List Char × Span × Reader) := do
  let isFirst (c : Char) : Bool := c == '_' || isLetter c
  let isLater (c : Char) : Bool := isAlphanumeric c || ['_', '.', '[', ']'].contains c
  match r.next? with
  | none => r.failHere .captureNameUnclosed
  | some '>' => r.failHere .captureNameEmpty
  | some c =>
    if !isFirst c then r.failChar .captureNameInvalid
    let name := c :: r.rest.tail.takeWhile isLater
    let last := r.forwardBy name.length
    match last.next? with
    | none => last.failHere .captureNameUnclosed
    | some '>' => pure (name, last.since r.place, last.forward)
    | some _ => last.failChar .captureNameInvalid

end Reader

/-- How far a pattern is read. -/
structure Scan where
  reader : Reader
  /-- What was read in the innermost group. -/
  contents : Contents := .startingAt {}
  /-- Whether something stands in front that may be repeated. -/
  repeatable : Bool := false
  /-- The groups that are open, the innermost in front. -/
  groups : List Group := []
  /-- The names of groups, and where they stand. -/
  names : List (List Char × Span) := []
  /-- The first use that is not supported. -/
  unsupported : Option Error := none
  /-- Whether edges of words are asked for where characters are told apart. -/
  wordEdges : Bool := false

namespace Scan

def modes (s : Scan) : Modes := s.reader.modes

/-- Goes on behind a part that may be repeated. -/
def behind (s : Scan) (reader : Reader) (part : Tree) (uses : Uses) : Scan :=
  { s with
    reader, repeatable := true
    contents := s.contents.add part
    unsupported := s.unsupported.or (uses.error? s.modes) }

/-- Opens a group. -/
def enter (s : Scan) (reader : Reader) (opening : Span) (modes : Modes) : Scan :=
  { s with
    reader := { reader with modes }, repeatable := false
    contents := .startingAt reader.place
    groups := ⟨opening, s.modes, s.contents⟩ :: s.groups }

/-- Opens a group with a name. -/
def enterNamed (s : Scan) (reader : Reader) (opening : Span) : Except Error Scan := do
  let (name, span, reader) ← reader.groupName
  match s.names.find? fun (other, _) => other == name with
  | some (_, earlier) => throw ⟨.captureNameDuplicate, span, some earlier⟩
  | none => pure ({ s with names := (name, span) :: s.names }.enter reader opening s.modes)

/-- Flags behind a question mark, for a group or for what follows. -/
def enterFlags (s : Scan) (reader : Reader) (opening : Span) (mark : Place) :
    Except Error Scan := do
  if reader.atEnd then throw ⟨.groupUnclosed, opening, none⟩
  let (flags, last) ← reader.flags [] (reader.rest.length + 1)
  let modes := flags.apply s.modes
  if last.next? = some ':' then pure (s.enter last.forward opening modes)
  else if flags.isEmpty then throw ⟨.nothingRepeated, ⟨mark, mark⟩, none⟩
  else
    let flag := Tree.leaf (last.forward.since opening.start)
    pure { s with
      reader := { last.forward with modes }, repeatable := false
      contents := s.contents.add flag }

/-- A parenthesis opens a group, or holds flags. -/
def opened (s : Scan) : Except Error Scan :=
  let opening := s.reader.char
  let r := s.reader.step
  match ["?=", "?!", "?<=", "?<!"].findSome? r.behind? with
  | some last => last.failSince opening.start .lookAround
  | none =>
    match ["?P<", "?<"].findSome? r.behind?, r.behind? "?" with
    | some named, _ => s.enterNamed named opening
    | none, some flagged => s.enterFlags flagged opening r.place
    | none, none => .ok (s.enter r opening s.modes)

/-- Closes the innermost group. -/
def closed (s : Scan) : Except Error Scan :=
  match s.groups with
  | [] => s.reader.failChar .groupUnopened
  | g :: groups =>
    let reader := { s.reader.forward with modes := g.modes }
    let whole := Tree.node (reader.since g.opening.start) [s.contents.tree s.reader.place]
    .ok { s with groups, reader, repeatable := true, contents := g.contents.add whole }

/-- A repetition without a count; a question mark makes it prefer few. -/
def repeated (s : Scan) : Except Error Scan :=
  if !s.repeatable then s.reader.failHere .nothingRepeated
  else
    let r := s.reader.forward
    let reader := if r.next? = some '?' then r.forward else r
    .ok { s with reader, contents := s.contents.repeated reader.place }

/-- A repetition with a count, which never ends. -/
def counted (s : Scan) : Except Error Scan :=
  let start := s.reader.place
  let first := s.reader.step.behindBlanks
  let (digits, last) := first.run Char.isDigit first.rest.length
  let behind := last.behindBlanks
  let number : Nat := digits.foldl (fun n c => 10 * n + (c.toNat - 48)) 0
  if !s.repeatable then s.reader.failHere .nothingRepeated
  else if behind.atEnd then behind.failSince start .countUnclosed
  else if digits.isEmpty then first.failHere .countEmpty
  else if 2 ^ 32 ≤ number then last.failSince first.place .countInvalid
  else behind.failSince start .countUnclosed

/-- What an atom uses that may not be supported. -/
def use? : Atom → Option Use
  | .literal c ofByte => some (.literal c ofByte)
  | .any => some .any
  | .perl negated => some (.perl negated)
  | .property => some .property
  | .wordEdge | .edge => none

/-- What stands for a character or for a place between two. -/
def atom (s : Scan) (atom : Atom) (span : Span) (last : Reader) : Scan :=
  let wordEdges := s.wordEdges || (atom == .wordEdge && s.modes.unicode)
  { s.behind last (.leaf span) ((use? atom).toList.map (·, span)) with wordEdges }

/-- An atom that is one character. -/
def single (s : Scan) (atom : Atom) : Scan := s.atom atom s.reader.char s.reader.forward

/-- Goes on at a character. -/
def next (s : Scan) (c : Char) : Except Error Scan := do
  match c with
  | '(' => s.opened
  | ')' => s.closed
  | '|' =>
    let reader := s.reader.forward
    let contents := s.contents.alternate s.reader.place reader.place
    pure { s with reader, contents, repeatable := false }
  | '[' =>
    let (uses, part, last) ← ClassReader.read s.reader
    pure (s.behind last part uses)
  | '?' | '*' | '+' => s.repeated
  | '\x7b' => s.counted
  | '\\' =>
    let (atom, last) ← s.reader.escape
    pure (s.atom atom (last.since s.reader.place) last)
  | '.' => pure (s.single .any)
  | '^' | '$' => pure (s.single .edge)
  | c => pure (s.single (.plain c))

/-- Goes on to the end; each step takes a character at least. -/
def finish : Nat → Scan → Except Error Scan
  | 0, s => .ok s
  | n + 1, s => do
    let s := { s with reader := s.reader.behindGap }
    match s.reader.next?, s.groups with
    | some c, _ => finish n (← s.next c)
    | none, g :: _ => throw ⟨.groupUnclosed, g.opening, none⟩
    | none, [] => pure s

/-- The first error of a pattern that is well written. -/
def error? (s : Scan) : Option Error :=
  (s.contents.tree s.reader.place).error?.or s.unsupported

/-- Reads a pattern to its end. -/
def ofPattern (pattern : String) : Except Error Scan :=
  finish (pattern.length + 1) { reader := { rest := pattern.toList } }

end Scan

/-- Why a pattern is not taken. -/
inductive Refusal
  | error (e : Error) (pattern : String)
  /-- Edges of words can be told between ASCII characters only. -/
  | wordEdges
  deriving DecidableEq, Repr

namespace Refusal

/-- The faults that a refusal comes from, the nearest first. -/
def causes : Refusal → List String
  | error e pattern => ["error building NFA", "error parsing regex", e.text pattern]
  | wordEdges =>
    ["unsupported regex feature for DFAs: cannot build DFAs for regexes with Unicode word " ++
      "boundaries; switch to ASCII word boundaries, or heuristically enable Unicode word " ++
      "boundaries or use a different regex engine"]

end Refusal

/-- Why a pattern is not taken, if it is not. -/
def refusal? (pattern : String) : Option Refusal :=
  match Scan.ofPattern pattern with
  | .error e => some (.error e pattern)
  | .ok s =>
    match s.error? with
    | some e => some (.error e pattern)
    | none => if s.wordEdges then some .wordEdges else none

end Friendship.Log.Pattern
