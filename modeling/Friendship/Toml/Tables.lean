import Friendship.Toml.Value

/-!
# Building tables

A document gives tables piece by piece: in full under a header of their own, on the way to a
header, or by dotted keys. A table that was only opened on the way to a header may still get its
own header, once. Dotted keys may extend every table without a header of its own, and one that
they gave a value to gets no header any more. A value, inline tables included, is never extended.
A list of tables grows by one element with each header, and later keys and headers mean its last
element.
-/

namespace Friendship.Toml

/-- How a table came about. -/
inductive Origin
  /-- By a header of its own. -/
  | header
  /-- On the way to the header of another table. -/
  | passage
  /-- By dotted keys. -/
  | dotted
  deriving DecidableEq, Repr

inductive Node
  | value (v : Value)
  | table (origin : Origin) (members : List (String × Node))
  /-- A list of tables, its last element apart. -/
  | tables (earlier : List (List (String × Node))) (last : List (String × Node))

/-- The members of a table that is being built. -/
abbrev Members := List (String × Node)

namespace Members

/-- Gives a name another meaning. -/
def set (members : Members) (name : String) (node : Node) : Members :=
  match members with
  | [] => [(name, node)]
  | (n, old) :: rest => if n = name then (n, node) :: rest else (n, old) :: set rest name node

/-- Puts a value under a dotted key; `extensible` tells whether the table may get the value
itself, which the last element of a list of tables may not. -/
def put (v : Value) : Bool → List String → Members → Option Members
  | _, [], _ => none
  | extensible, [name], members =>
    if extensible && (members.lookup name).isNone then some (members.set name (.value v)) else none
  | _, name :: path, members =>
    match members.lookup name with
    | none => do pure (members.set name (.table .dotted (← put v true path [])))
    | some (.table .header _) => none
    | some (.table origin inner) => do
      let origin := if path.length = 1 then .dotted else origin
      pure (members.set name (.table origin (← put v true path inner)))
    | some (.tables earlier last) => do
      pure (members.set name (.tables earlier (← put v false path last)))
    | some (.value _) => none

/-- Puts keys with their values one after another. -/
def putAll (members : Members) (pairs : List (List String × Value)) : Option Members :=
  pairs.foldlM (fun members (key, v) => members.put v true key) members

/-- Changes the table at a path, opening the tables on the way. -/
def under (change : Members → Option Members) : List String → Members → Option Members
  | [], members => change members
  | name :: path, members =>
    match members.lookup name with
    | none => do pure (members.set name (.table .passage (← under change path [])))
    | some (.table origin inner) => do
      pure (members.set name (.table origin (← under change path inner)))
    | some (.tables earlier last) => do
      pure (members.set name (.tables earlier (← under change path last)))
    | some (.value _) => none

end Members

/-- A header with what follows it. -/
structure Part where
  /-- The names that lead to the table. -/
  path : List String
  name : String
  /-- Whether the header begins another element of a list of tables. -/
  isElement : Bool
  pairs : List (List String × Value)

namespace Part

/-- Adds the table of a header to those around it. -/
def place (part : Part) (members : Members) : Option Members := do
  match part.isElement, members.lookup part.name with
  | false, none => pure (members.set part.name (.table .header (← Members.putAll [] part.pairs)))
  | false, some (.table .passage inner) =>
    pure (members.set part.name (.table .header (← Members.putAll inner part.pairs)))
  | true, none => pure (members.set part.name (.tables [] (← Members.putAll [] part.pairs)))
  | true, some (.tables earlier last) =>
    pure (members.set part.name
      (.tables (earlier ++ [last]) (← Members.putAll [] part.pairs)))
  | _, some _ => none

/-- Adds a part to a document. -/
def add (members : Members) (part : Part) : Option Members :=
  members.under part.place part.path

end Part

mutual

def Node.toValue : Node → Value
  | .value v => v
  | .table _ members => .table (memberValues members)
  | .tables earlier last => .list (tableValues earlier ++ [.table (memberValues last)])

def memberValues : List (String × Node) → List (String × Value)
  | [] => []
  | (name, node) :: rest => (name, node.toValue) :: memberValues rest

def tableValues : List (List (String × Node)) → List Value
  | [] => []
  | members :: rest => .table (memberValues members) :: tableValues rest

end

/-- The table of an inline table's keys. -/
def inlineTable? (pairs : List (List String × Value)) : Option Value :=
  (Members.putAll [] pairs).map fun members => .table (memberValues members)

/-- The members of a document: keys before the first header, then the parts. -/
def assemble? (pairs : List (List String × Value)) (parts : List Part) :
    Option (List (String × Value)) := do
  let members ← Members.putAll [] pairs
  let members ← parts.foldlM Part.add members
  pure (memberValues members)

end Friendship.Toml
