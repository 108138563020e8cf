import Friendship.Settings.Convert

/-!
# Fields of structures

A structure is a table with its fields as members, or a list of its fields in their order. What
is beyond the fields is ignored; fields that are not given have their defaults, if they have any.
-/

namespace Friendship.Settings

/-- The values of a structure's fields. -/
inductive Fields
  | named (members : Raw.Members)
  | listed (shape : Shape) (names : List String) (elements : List Raw)

namespace Fields

variable {α : Type}

/-- The fields that a value gives to a structure. -/
def of (name : String) (names : List String) : Decoder Fields := fun value =>
  let shape := Shape.record name names.length
  match value with
  | .table _ members => pure (.named members)
  | .list _ elements => pure (.listed shape names elements)
  | _ => throw ⟨.shape value shape, []⟩

/-- A field's value and its place, if it is given. -/
def find? (fields : Fields) (name : String) : Option (Segment × Raw) :=
  match fields with
  | named members => (members.lookup name).map fun value => (.member name, value)
  | listed _ names elements =>
    let i := names.idxOf name
    elements[i]?.map fun value => (.element i, value)

/-- A field that has to be given. -/
def required (fields : Fields) (name : String) (decode : Decoder α) : Except ValueError α :=
  match fields.find? name with
  | some (segment, value) => within segment (decode value)
  | none =>
    match fields with
    | named _ => throw ⟨.missing, [.member name]⟩
    | listed shape names _ => throw ⟨.length (names.idxOf name) shape, []⟩

/-- A field with a default. -/
def defaulted (fields : Fields) (name : String) (default : α) (decode : Decoder α) :
    Except ValueError α :=
  match fields.find? name with
  | some (segment, value) => within segment (decode value)
  | none => pure default

/-- A field that may be nothing. It may be left out of a table, but not of a list. -/
def optional (fields : Fields) (name : String) (decode : Decoder α) :
    Except ValueError (Option α) :=
  match fields with
  | named _ => fields.defaulted name none (Decoder.option decode)
  | listed .. => fields.required name (Decoder.option decode)

end Fields
end Friendship.Settings
