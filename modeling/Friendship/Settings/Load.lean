import Friendship.Settings.Decode
import Friendship.Files
import Friendship.Toml.Document

/-!
# Loading settings

The settings file is looked up, read in the format of its extension, and decoded. Its path may
be given in full, or without the extension that tells the format. Without a path the default path
is taken.
-/

namespace Friendship.Settings

/-- The formats of settings files, in the order in which their extensions are tried. -/
inductive Format
  | toml
  | json
  deriving DecidableEq, Repr

namespace Format

def extension : Format → List Char
  | toml => ['t', 'o', 'm', 'l']
  | json => ['j', 's', 'o', 'n']

def all : List Format := [toml, json]

def ofExtension? (extension : List Char) : Option Format :=
  all.find? (·.extension == extension)

/-- The members at the top of a text. -/
def members? : Format → String → Option Raw.Members
  | toml, text => (Toml.read? text).map Raw.ofTomlMembers
  | json, text =>
    match Json.Reader.document Json.Reader.anyValue text.toUTF8.data.toList with
    | .ok (.object members) => some (Raw.ofJsonMembers [] members)
    | .ok _ | .error _ => none

end Format

/-- Why there are no settings. -/
inductive LoadError
  | notFound (path : String)
  | unsupported (path : String)
  /-- The text breaks the grammar of its format. -/
  | malformed
  | value (error : ValueError)

def LoadError.message : LoadError → String
  | notFound path => s!"configuration file \"{path}\" not found"
  | unsupported path => s!"configuration file \"{path}\" is not of a supported file format"
  | malformed => "malformed settings file"
  | value e => e.message

/-- A settings file that was found. -/
structure Source where
  path : List Char
  format : Format
  text : String

/-- The name that an extension is appended to where a path goes on behind a name that has one. -/
def nameless : List Char := ".placeholder".toList

/-- What an extension is appended to, if a path leads to a name. What stays at the name is left
out, unless the name has an extension already. -/
def stem? (path : List Char) : Option (List Char) :=
  let named := Path.toName path
  let name := Path.lastName named
  if name = [] ∨ name = Path.parent then none
  else if (Path.extension? name).isNone then some named
  else if Path.lastName path = [] then some (path ++ nameless)
  else some path

/-- The paths that are tried with an extension appended. -/
def candidates (path : List Char) : List (List Char × Format) :=
  match stem? path with
  | none => []
  | some stem => Format.all.map fun format => (stem ++ '.' :: format.extension, format)

/-- Looks a settings file up. -/
def source (files : Files) (path : String) : Except LoadError Source :=
  match (files path.toList).text? with
  | some text =>
    match (Path.extension? (Path.lastName path.toList)).bind Format.ofExtension? with
    | some format => .ok ⟨path.toList, format, text⟩
    | none => .error (.unsupported path)
  | none =>
    let found := (candidates path.toList).findSome? fun (path, format) =>
      (files path).text?.map fun text => ⟨path, format, text⟩
    match found with
    | some source => .ok source
    | none => .error (.notFound path)

/-- A text without the byte order mark that it may begin with. -/
def withoutMark (text : String) : String :=
  match text.toList with
  | '\uFEFF' :: rest => String.ofList rest
  | _ => text

def defaultPath : String := "settings/dev.toml"

/-- The settings in the file of a path. -/
def load (files : Files) (path : Option String) : Except LoadError Settings := do
  let source ← source files (path.getD defaultPath)
  match source.format.members? (withoutMark source.text) with
  | none => throw .malformed
  | some members => (decode (Path.plain source.path) (Raw.ofTop members)).mapError .value

end Friendship.Settings
