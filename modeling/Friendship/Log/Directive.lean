import Friendship.Log.Pattern.Check
import Friendship.Log.Threshold
import Friendship.Text.Utf8

/-!
# Directives of log filters

A directive gives a level to the targets that begin with a text, or to all. In brackets it may name
a span and, in braces, a field; a value that is asked of the field is a number or a pattern.
-/

namespace Friendship.Log

open Text.Alphanumeric (isAlphanumeric isBlank)

/-- What is wrong with a filter. -/
inductive FilterError
  | directive
  | level
  | value (refusal : Pattern.Refusal)
  deriving DecidableEq

namespace FilterError

/-- The faults that an error comes from, the nearest first. -/
def causes : FilterError → List String
  | directive => []
  | level =>
    ["error parsing level filter: expected one of \"off\", \"error\", \"warn\", \"info\", " ++
      "\"debug\", \"trace\", or a number 0-5"]
  | value refusal => refusal.causes

def message (e : FilterError) : String :=
  let nearest := e.causes.headD ""
  match e with
  | directive => "invalid filter directive"
  | level => nearest
  | value _ => "invalid field filter: " ++ nearest

end FilterError

/-- A field that a directive asks for. -/
structure FieldFilter where
  name : List Char
  /-- Whether it asks for a value too. -/
  hasValue : Bool := false
  deriving DecidableEq

namespace FieldFilter

/-- Whether a text is a number with a fraction or an exponent, or one without. -/
def isNumber (cs : List Char) : Bool :=
  let unsigned (cs : List Char) : List Char :=
    match cs with
    | '+' :: rest | '-' :: rest => rest
    | _ => cs
  let isDigits (cs : List Char) : Bool := !cs.isEmpty && cs.all Char.isDigit
  let body := unsigned cs
  let whole := body.takeWhile Char.isDigit
  let fraction := match body.drop whole.length with
    | '.' :: rest => rest.takeWhile Char.isDigit
    | _ => []
  let rest := match body.drop whole.length with
    | '.' :: rest => rest.drop fraction.length
    | rest => rest
  let ends := match rest with
    | [] => true
    | 'e' :: exponent | 'E' :: exponent => isDigits (unsigned exponent)
    | _ => false
  ["inf", "infinity", "nan"].contains (String.ofList body).toLower ||
    (isDigits (whole ++ fraction) && ends)

/-- What is wrong with a value: one that is no truth value and no number is a pattern. -/
def valueError? (value : List Char) : Option FilterError :=
  let text := String.ofList value
  if text = "true" ∨ text = "false" ∨ isNumber value then none
  else (Pattern.refusal? text).map .value

/-- A name, possibly with a value behind an equals sign; what a second one leads is nothing. -/
def read (cs : List Char) : Except FilterError FieldFilter :=
  let name := cs.takeWhile (· ≠ '=')
  match cs.drop name.length with
  | [] => .ok { name }
  | _ :: rest =>
    match valueError? (rest.takeWhile (· ≠ '=')) with
    | some e => .error e
    | none => .ok { name, hasValue := true }

end FieldFilter

/-- A threshold for the targets that begin with a text. -/
structure Directive where
  /-- All targets begin with the empty text. -/
  lead : List Char
  threshold : Threshold
  /-- The name of the field that is asked for, if one is. -/
  field : List Char := []
  /-- Whether it is about a span, or the value of a field. -/
  isSpan : Bool := false
  deriving DecidableEq

namespace Directive

/-- What follows the equals sign; nothing stands for all levels. -/
def level (cs : List Char) : Except FilterError Threshold :=
  match cs with
  | [] => .ok (some .trace)
  | _ =>
    match Threshold.read? cs with
    | some threshold => .ok threshold
    | none => .error .level

/-- Whether a directive may begin with a character. -/
def isStart (c : Char) : Bool := isAlphanumeric c || ['-', ':', '_', '['].contains c

/-- How many bytes characters take. -/
def size (cs : List Char) : Nat := (String.ofList cs).utf8ByteSize

/-- The text of a directive. Its form is seen without the blanks around it; places are counted
there, in bytes, but texts are cut from the whole. So blanks in front make part of a text, and
push another part out of it. -/
structure Source where
  bytes : List UInt8
  trimmed : List Char

namespace Source

def ofChars (cs : List Char) : Source where
  bytes := (String.ofList cs).toUTF8.toList
  trimmed := ((cs.dropWhile isBlank).reverse.dropWhile isBlank).reverse

/-- What stands from a place on. -/
def behind (s : Source) (start : Nat) : Except FilterError (List Char) :=
  match Text.Utf8.text? (s.bytes.drop start) with
  | some text => .ok text.toList
  | none => .error .directive

/-- What stands from a place up to another one. -/
def between (s : Source) (start stop : Nat) : Except FilterError (List Char) :=
  behind { s with bytes := s.bytes.take stop } start

end Source

/-- What stands behind brackets, or in their place: a level behind an equals sign, or nothing. -/
def ending (source : Source) (place : Nat) (rest : List Char) : Except FilterError Threshold :=
  match rest with
  | [] => .ok (some .trace)
  | '=' :: _ => do level (← source.behind (place + 1))
  | _ => .error .directive

/-- A directive with a bracket; what follows the opening one is at a place. -/
def bracketed (source : Source) (lead : List Char) (place : Nat) (cs : List Char) :
    Except FilterError Directive := do
  let span := cs.takeWhile fun c => c ≠ ']' && c ≠ '\x7b'
  let spanEnd := place + size span
  match cs.drop span.length with
  | ']' :: rest =>
    let threshold ← ending source (spanEnd + 1) rest
    pure { lead, threshold, isSpan := true }
  | '\x7b' :: inner =>
    let text := inner.takeWhile (· ≠ '\x7d')
    let textEnd := spanEnd + 1 + size text
    match text, inner.drop text.length with
    | _ :: _, '\x7d' :: rest =>
      let field ← FieldFilter.read (← source.between (spanEnd + 1) textEnd)
      match rest with
      | ']' :: rest =>
        let threshold ← ending source (textEnd + 2) rest
        pure { lead, threshold, field := field.name, isSpan := !span.isEmpty || field.hasValue }
      | _ => throw .directive
    | _, _ => throw .directive
  | _ => throw .directive

/-- Reads a directive. Without an equals sign or a bracket it is a level, or else the beginning
of targets. -/
def read (cs : List Char) : Except FilterError Directive := do
  let source := Source.ofChars cs
  if !source.trimmed.head?.any isStart then throw .directive
  let text := source.trimmed.takeWhile fun c => c ≠ '=' && c ≠ '['
  let place := size text
  match source.trimmed.drop text.length with
  | [] =>
    match Threshold.read? cs with
    | some threshold => pure { lead := [], threshold }
    | none => pure { lead := cs, threshold := some .trace }
  | '[' :: rest => bracketed source (← source.between 0 place) (place + 1) rest
  | rest => pure { lead := ← source.between 0 place, threshold := ← ending source place rest }

/-- Whether a directive is about an event. -/
def isAbout (d : Directive) (event : Event) : Bool :=
  !d.isSpan && d.lead.isPrefixOf event.target.toList &&
    (d.field.isEmpty || event.fieldNames.any fun name => name.toList == d.field)

/-- Whether a directive says less than another one about events that both are about. -/
def isBelow (d e : Directive) : Bool :=
  d.lead.length < e.lead.length ||
    (d.lead.length == e.lead.length && (compare d.field e.field).isLT)

end Directive
end Friendship.Log
