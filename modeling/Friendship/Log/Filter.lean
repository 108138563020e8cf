import Friendship.Log.Directive

/-!
# Log filters

A filter is a list of directives with commas between them; the one with the longest text decides,
and of two with the same text and field the later one. What no directive is about is not told.
Directives about spans, or about values of fields, are known, but there are no spans here.
-/

namespace Friendship.Log

/-- Directives in the order given. -/
structure Filter where
  directives : List Directive
  deriving DecidableEq

namespace Filter

/-- The directive that decides about an event. -/
def decisive? (filter : Filter) (event : Event) : Option Directive :=
  (filter.directives.filter (·.isAbout event)).foldl
    (fun best d => if best.any d.isBelow then best else some d) none

/-- Whether an event is told. -/
def admits (filter : Filter) (event : Event) : Bool :=
  (filter.decisive? event).any fun d => d.threshold.admits event.level

/-- What stands between the commas of a text. -/
def parts : List Char → List (List Char)
  | [] => [[]]
  | ',' :: rest => [] :: parts rest
  | c :: rest =>
    match parts rest with
    | first :: others => (c :: first) :: others
    | [] => [[c]]

/-- A filter from its text; without directives only errors are told. -/
def read (s : String) : Except FilterError Filter := do
  match (parts s.toList).filter (!·.isEmpty) with
  | [] => pure ⟨[{ lead := [], threshold := some .error }]⟩
  | given => do pure ⟨← given.mapM Directive.read⟩

/-- A filter that tells everything up to a level. -/
def upTo (level : Level) : Filter := ⟨[{ lead := [], threshold := some level }]⟩

end Filter
end Friendship.Log
