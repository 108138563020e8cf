import Friendship.Arithmetic

/-!
# Files

What stands at a path: a file with its text, a directory, or nothing. Paths are followed
component by component, through directories only. A text with a null character is no path, and
neither a path nor a name in it may be too long.
-/

namespace Friendship

/-- What stands at a path. -/
inductive Entry
  | file (text : String)
  | directory
  /-- Something that can be opened but is no regular file. -/
  | device
  | missing
  /-- A file on the way, where a directory would have to be. -/
  | blocked
  /-- The path or a name in it is too long. -/
  | tooLong
  /-- The text is no path. -/
  | noPath
  deriving DecidableEq, Repr

def Entry.text? : Entry → Option String
  | file text => some text
  | directory | device | missing | blocked | tooLong | noPath => none

/-- What stands at each path. -/
abbrev Files := List Char → Entry

namespace Path

/-- What stands between the slashes of a path. -/
def components : List Char → List (List Char)
  | [] => [[]]
  | '/' :: rest => [] :: components rest
  | c :: rest =>
    match components rest with
    | first :: others => (c :: first) :: others
    | [] => [[c]]

def parent : List Char := ['.', '.']

/-- Whether a component stays where it is. -/
def isIdle (name : List Char) : Bool := name = [] || name = ['.']

/-- Whether a text can be a path. -/
def isText (path : List Char) : Bool := !path.contains '\x00'

/-- The number of bytes of a path or a name. -/
def size (path : List Char) : Nat := (path.map Char.utf8Size).sum

/-- Whether a path or a name has more bytes than it may have. -/
def isLongPath (path : List Char) : Bool := 4095 < size path

def isLongName (name : List Char) : Bool := 255 < size name

/-- The last name of a path. -/
def lastName (path : List Char) : List Char := ((components path).getLast?).getD []

/-- What follows the last dot of a name, unless the dot begins the name. -/
def extension? (name : List Char) : Option (List Char) :=
  if name = parent then none
  else
    match name.reverse.span (· ≠ '.') with
    | (after, '.' :: _ :: _) => some after.reverse
    | _ => none

/-- A path from its components. -/
def joined (names : List (List Char)) : List Char := ['/'].intercalate names

/-- A path up to its last name, without what stays there. -/
def toName (path : List Char) : List Char :=
  joined ((components path).reverse.dropWhile isIdle).reverse

/-- A path without components that stay where they are. -/
def plain (path : List Char) : String :=
  String.ofList (joined ((components path).filter (!isIdle ·)))

end Path

namespace Files

/-- Files by the names that lead to them from the current directory. -/
abbrev Listing := List (List (List Char) × String)

namespace Listing

/-- Whether names lead to a directory, which holds files. -/
def isDirectory (listing : Listing) (names : List (List Char)) : Bool :=
  names.isEmpty ||
    listing.any fun (path, _) => names.isPrefixOf path && names.length < path.length

/-- What names lead to. -/
def entry (listing : Listing) (names : List (List Char)) : Entry :=
  if listing.isDirectory names then .directory
  else
    match listing.lookup names with
    | some text => .file text
    | none => .missing

/-- Follows components from a directory in which no names are known; neither are they in the
directories above it. -/
def followUnknown : List (List Char) → Entry
  | [] => .directory
  | name :: rest =>
    if Path.isIdle name || name = Path.parent then followUnknown rest
    else if Path.isLongName name then .tooLong
    else .missing

/-- Follows components from a place. What is beside the current directory is not known. -/
def follow (listing : Listing) : List (List Char) → List (List Char) → Entry
  | place, [] => listing.entry place
  | place, name :: rest =>
    match listing.entry place with
    | .directory =>
      if Path.isIdle name then follow listing place rest
      else if name = Path.parent then
        if place.isEmpty then followUnknown rest else follow listing place.dropLast rest
      else if Path.isLongName name then .tooLong
      else follow listing (place ++ [name]) rest
    | .file _ => .blocked
    | other => other

end Listing

/-- The device that every system has. -/
def nullDevice : List Char := "/dev/null".toList

/-- The files with given paths below the current directory, and no others. -/
def ofList (files : List (String × String)) : Files := fun path =>
  let listing : Listing := files.map fun (path, text) => (Path.components path.toList, text)
  if !Path.isText path then .noPath
  else if path = [] then .missing
  else if Path.isLongPath path then .tooLong
  else if path = nullDevice then .device
  else if path.head? = some '/' then Listing.followUnknown (Path.components path)
  else listing.follow [] (Path.components path)

end Files
end Friendship
