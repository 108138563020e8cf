import Friendship.Database.Error

/-!
# Foreign key violations

A row whose owner or counterparty has no account is refused by the server with one of two error
numbers. Its message names the constraint, the column or neither.
-/

namespace Friendship.Database

/-- Which end of a row has no account. -/
inductive ForeignKey
  | owner
  | counterparty
  /-- The message names neither. -/
  | unknown
  deriving DecidableEq, Repr

/-- Whether a text stands somewhere in another one. -/
def occursIn (part : List Char) : List Char → Bool
  | [] => part.isEmpty
  | c :: rest => part.isPrefixOf (c :: rest) || occursIn part rest

namespace ForeignKey

/-- The numbers of the errors for a row that refers to nothing. -/
def numbers : List UInt16 := [1216, 1452]

/-- How a message names the owner: its constraint or its column. -/
def ownerMarks : List String := ["`fk_relationship_owner`", "(`owner_id`)"]

/-- How a message names the counterparty: its constraint or its column. -/
def counterpartyMarks : List String := ["`fk_relationship_counterparty`", "(`counterparty_id`)"]

/-- Whether one of several marks stands in a message. -/
def marked (marks : List String) (message : String) : Bool :=
  marks.any fun mark => occursIn mark.toList message.toList

/-- The violation that an error number and a message tell of. A message that names both ends
tells of the owner. -/
def ofMessage? (number : UInt16) (message : String) : Option ForeignKey :=
  if number ∉ numbers then none
  else if marked ownerMarks message then some owner
  else if marked counterpartyMarks message then some counterparty
  else some unknown

end ForeignKey

/-- The foreign key that a failure tells of. -/
def QueryError.foreignKey? : QueryError → Option ForeignKey
  | .server e => ForeignKey.ofMessage? e.code e.message
  | _ => none

end Friendship.Database
