import Friendship.Text.Hex

/-!
# Paths of URLs

A path is segments with slashes between them. A segment of one dot is left out, one of two dots
takes the segment before it away unless that is the letter of a drive; dots may be written with
percent signs.
-/

namespace Friendship.Url.Path

/-- What stands between the slashes of a path. -/
def segments (isSlash : Char → Bool) : List Char → List (List Char)
  | [] => [[]]
  | c :: rest =>
    if isSlash c then [] :: segments isSlash rest
    else
      match segments isSlash rest with
      | first :: others => (c :: first) :: others
      | [] => [[c]]

/-- How many dots a segment is, if it is nothing else. -/
def dots? : List Char → Option Nat
  | [] => some 0
  | '.' :: rest => (dots? rest).map (· + 1)
  | '%' :: '2' :: 'e' :: rest | '%' :: '2' :: 'E' :: rest => (dots? rest).map (· + 1)
  | _ => none

/-- Whether a text is the letter of a drive. -/
def isDrive : List Char → Bool
  | [letter, c] => letter.isAlpha && (c == ':' || c == '|')
  | _ => false

/-- Segments without the last one, which is in front. -/
def withoutLast (segments : List (List Char)) : List (List Char) :=
  if segments.head?.any isDrive then segments else segments.tail

/-- Segments behind those so far, the latest of which are in front. -/
def settled (soFar : List (List Char)) : List (List Char) → List (List Char)
  | [] => soFar.reverse
  | s :: rest =>
    let behind (soFar : List (List Char)) : List (List Char) :=
      settled (if rest.isEmpty then [] :: soFar else soFar) rest
    match dots? s with
    | some 1 => behind soFar
    | some 2 => behind (withoutLast soFar)
    | _ => settled (s :: soFar) rest

/-- A path without its dots, and without the slashes in front. -/
def read (isSlash : Char → Bool) (cs : List Char) : List Char :=
  let given := match cs with
    | c :: rest => if isSlash c then rest else cs
    | [] => []
  (['/'].intercalate (settled [] (segments isSlash given))).dropWhile (· = '/')

end Friendship.Url.Path
