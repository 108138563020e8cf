/-!
# What is wrong with a pattern

A pattern may break the grammar of regular expressions, or use what is not supported here. A fault
is told below the lines of the pattern that it is about, with marks under its characters.
-/

namespace Friendship.Log.Pattern

/-- Lines and columns are counted in characters from one. -/
structure Place where
  line : Nat := 1
  column : Nat := 1
  deriving DecidableEq, Repr

def Place.isBefore (p q : Place) : Bool :=
  p.line < q.line || (p.line == q.line && p.column < q.column)

/-- From one place up to another one, which is behind it. -/
structure Span where
  start : Place
  stop : Place
  deriving DecidableEq, Repr

inductive Fault
  | backreference
  | captureNameDuplicate
  | captureNameEmpty
  | captureNameInvalid
  | captureNameUnclosed
  | classEscape
  | classRange
  | classRangeEnd
  | classUnclosed
  | countEmpty
  | countInvalid
  | countUnclosed
  | escapeUnfinished
  | escapeUnknown
  | flagDuplicate
  | flagNegationDangling
  | flagNegationRepeated
  | flagUnfinished
  | flagUnknown
  | groupUnclosed
  | groupUnopened
  | hexDigit
  | hexNumber
  | lookAround
  /-- There are more levels than so many. -/
  | nesting (limit : Nat)
  | nothingRepeated
  | propertyInvalid
  | wordBoundaryOrCount
  | wordBoundaryUnclosed
  /-- A class that depends on the properties of all characters. -/
  | perlClass
  | property
  /-- A letter in either case, whatever letter it is. -/
  | eitherCase
  /-- Something about characters where bytes are told apart. -/
  | characters
  /-- Bytes that are no characters. -/
  | bytes
  deriving DecidableEq, Repr

def Fault.message : Fault → String
  | backreference => "backreferences are not supported"
  | captureNameDuplicate => "duplicate capture group name"
  | captureNameEmpty => "empty capture group name"
  | captureNameInvalid => "invalid capture group character"
  | captureNameUnclosed => "unclosed capture group name"
  | classEscape => "invalid escape sequence found in character class"
  | classRange => "invalid character class range, the start must be <= the end"
  | classRangeEnd => "invalid range boundary, must be a literal"
  | classUnclosed => "unclosed character class"
  | countEmpty => "repetition quantifier expects a valid decimal"
  | countInvalid => "decimal literal invalid"
  | countUnclosed => "unclosed counted repetition"
  | escapeUnfinished => "incomplete escape sequence, reached end of pattern prematurely"
  | escapeUnknown => "unrecognized escape sequence"
  | flagDuplicate => "duplicate flag"
  | flagNegationDangling => "dangling flag negation operator"
  | flagNegationRepeated => "flag negation operator repeated"
  | flagUnfinished => "expected flag but got end of regex"
  | flagUnknown => "unrecognized flag"
  | groupUnclosed => "unclosed group"
  | groupUnopened => "unopened group"
  | hexDigit => "invalid hexadecimal digit"
  | hexNumber => "hexadecimal literal is not a Unicode scalar value"
  | lookAround => "look-around, including look-ahead and look-behind, is not supported"
  | nesting limit => s!"exceed the maximum number of nested parentheses/brackets ({limit})"
  | nothingRepeated => "repetition operator missing expression"
  | propertyInvalid => "invalid Unicode character class"
  | wordBoundaryOrCount =>
    "found either the beginning of a special word boundary or a bounded repetition on a \\b " ++
      "with an opening brace, but no closing brace"
  | wordBoundaryUnclosed =>
    "special word boundary assertion is either unclosed or contains an invalid character"
  | perlClass =>
    "Unicode-aware Perl class not found (make sure the unicode-perl feature is enabled)"
  | property => "Unicode property not found"
  | eitherCase =>
    "Unicode-aware case insensitivity matching is not available (make sure the unicode-case " ++
      "feature is enabled)"
  | characters => "Unicode not allowed here"
  | bytes => "pattern can match invalid UTF-8"

/-- A fault and where it is; some are about an earlier place too. -/
structure Error where
  fault : Fault
  span : Span
  earlier : Option Span := none
  deriving DecidableEq, Repr

namespace Error

/-- The lines of a text, without an empty one at its end. -/
def lines (pattern : String) : List String :=
  let all := pattern.splitOn "\n"
  let bare (line : String) : String :=
    match line.toList.reverse with
    | '\r' :: rest => String.ofList rest.reverse
    | _ => line
  match all.getLast? with
  | none | some "" => all.dropLast.map bare
  | some last => all.dropLast.map bare ++ [last]

/-- Marks under the characters of spans on one line, the spans in ascending order. -/
def marks (spans : List Span) : List Char :=
  spans.foldl (fun marks span =>
    let gap := span.start.column - 1 - marks.length
    let width := max 1 (span.stop.column - span.start.column)
    marks ++ List.replicate gap ' ' ++ List.replicate width '^') []

/-- The spans of an error in ascending order. -/
def spans (e : Error) : List Span :=
  match e.earlier with
  | none => [e.span]
  | some s => if s.start.isBefore e.span.start then [s, e.span] else [e.span, s]

/-- A line with what is marked on it, behind a margin. -/
def noted (spans : List Span) (margin line : String) (number : Nat) : String :=
  let here := spans.filter fun s => s.start.line = number ∧ s.stop.line = number
  let below :=
    if here.isEmpty then ""
    else "".pushn ' ' margin.length ++ String.ofList (marks here) ++ "\n"
  margin ++ line ++ "\n" ++ below

/-- The error below a pattern of one line. -/
def shortText (e : Error) (pattern : String) : String :=
  "regex parse error:\n" ++ noted e.spans "    " pattern 1 ++ "error: " ++ e.fault.message

/-- A span over lines. -/
def longSpanText (s : Span) : String :=
  s!"on line {s.start.line} (column {s.start.column}) through line {s.stop.line} " ++
    s!"(column {s.stop.column - 1})\n"

/-- The error below a pattern of several lines, which are numbered. -/
def longText (e : Error) (pattern : String) : String :=
  let divider := "".pushn '~' 79 ++ "\n"
  let lines := lines pattern
  let count := lines.length + (if pattern.endsWith "\n" then 1 else 0)
  let margin (number : Nat) : String :=
    let digits := toString number
    "".pushn ' ' ((toString count).length - digits.length) ++ digits ++ ": "
  let body := lines.zipIdx.map fun (line, i) => noted e.spans (margin (i + 1)) line (i + 1)
  let long := e.spans.filter fun s => s.start.line ≠ s.stop.line
  "regex parse error:\n" ++ divider ++ String.join body ++ divider ++
    String.join (long.map longSpanText) ++ "error: " ++ e.fault.message

def text (e : Error) (pattern : String) : String :=
  if pattern.contains '\n' then e.longText pattern else e.shortText pattern

end Error
end Friendship.Log.Pattern
