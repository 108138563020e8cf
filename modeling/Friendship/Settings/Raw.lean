import Friendship.Json.Document
import Friendship.Settings.KeyPath
import Friendship.Toml.Value

/-!
# Raw settings

What a settings file says before it is known what is wanted: values, lists and tables, whichever
format they were written in. Tables are merged member by member into the settings read so far,
other values replace what was there. A name at the top may lead into tables and lists, which are
made where there are none. What is made in this way belongs to no file, and is called merged here.
-/

namespace Friendship.Settings

inductive Raw
  | unit (merged : Bool)
  | boolean (b : Bool)
  | integer (n : Int)
  | float (x : Decimal.Binary64)
  | string (s : String)
  | list (merged : Bool) (elements : List Raw)
  | table (merged : Bool) (members : List (String × Raw))

namespace Raw

abbrev Members := List (String × Raw)

/-- Gives a name another value. -/
def setMember (members : Members) (name : String) (value : Raw) : Members :=
  match members with
  | [] => [(name, value)]
  | (n, old) :: rest =>
    if n = name then (n, value) :: rest else (n, old) :: setMember rest name value

/-- The value of a name. -/
def member (members : Members) (name : String) : Raw := (members.lookup name).getD (unit true)

/-- Whether a value stands in the file as it is. -/
def isOfFile : Raw → Bool
  | unit merged | list merged _ | table merged _ => !merged
  | boolean _ | integer _ | float _ | string _ => true

/-! ## From the formats -/

mutual

/-- A JSON value; of members with one name the last counts. -/
def ofJson : Json.Value → Raw
  | .null => unit false
  | .boolean b => boolean b
  | .integer n => integer n
  | .float x => float x
  | .string s => string s
  | .list elements => list false (ofJsonElements elements)
  | .object members => table false (ofJsonMembers [] members)

def ofJsonElements : List Json.Value → List Raw
  | [] => []
  | v :: rest => ofJson v :: ofJsonElements rest

def ofJsonMembers (earlier : Members) : List (String × Json.Value) → Members
  | [] => earlier
  | (name, v) :: rest => ofJsonMembers (setMember earlier name (ofJson v)) rest

end

mutual

/-- A TOML value; dates and times become strings. -/
def ofToml : Toml.Value → Raw
  | .string s => string s
  | .integer n => integer n
  | .float x => float x
  | .boolean b => boolean b
  | .moment text => string text
  | .list elements => list false (ofTomlElements elements)
  | .table members => table false (ofTomlMembers members)

def ofTomlElements : List Toml.Value → List Raw
  | [] => []
  | v :: rest => ofToml v :: ofTomlElements rest

def ofTomlMembers : List (String × Toml.Value) → Members
  | [] => []
  | (name, v) :: rest => (name, ofToml v) :: ofTomlMembers rest

end

/-! ## Merging -/

/-- The members of a table, behind whether it is merged. Other values give way to a new table. -/
def asTable : Raw → Bool × Members
  | table merged members => (merged, members)
  | _ => (true, [])

/-- The elements of a list, behind whether it is merged. Other values give way to a new list. -/
def asList : Raw → Bool × List Raw
  | list merged elements => (merged, elements)
  | _ => (true, [])

mutual

/-- Merges a value into what was there. -/
def merge (old : Raw) : Raw → Raw
  | table _ members =>
    let (merged, earlier) := old.asTable
    table merged (mergeMembers earlier members)
  | v => v

def mergeMembers (old : Members) : Members → Members
  | [] => old
  | (name, v) :: rest => mergeMembers (setMember old name (merge (member old name) v)) rest

end

/-- Elements that reach to an index, and the place of its element. Units are added at the end, or
in front for an index before the first element. -/
def reaching (index : Int) (elements : List Raw) : List Raw × Nat :=
  let units (n : Int) := List.replicate n.toNat (unit true)
  let count : Int := elements.length
  if 0 ≤ index then (elements ++ units (index + 1 - count), index.toNat)
  else (units (-(count + index)) ++ elements, (count + index).toNat)

/-- Merges a value into what is at the end of a path. -/
def mergeAt (value : Raw) : List Step → Raw → Raw
  | [], old => merge old value
  | .member name :: path, old =>
    let (merged, members) := old.asTable
    table merged (setMember members name (mergeAt value path (member members name)))
  | .element index :: path, old =>
    let (merged, elements) := old.asList
    let (elements, i) := reaching index elements
    list merged (elements.modify i (mergeAt value path))

/-- The settings that the members at the top of a file make. -/
def ofTop (members : Members) : Raw :=
  members.foldl (fun root (name, value) => mergeAt value (KeyPath.ofName name) root) (table true [])

end Raw
end Friendship.Settings
