import ImageGraph.Rehearsal.Web.Unicode.Decomposition

/-!
Canonical composition. A text in composed form is decomposed, and then each base takes in the marks
after it for which there is a composed character.
-/

namespace ImageGraph.Web.Unicode

/-- The character that is composed of two. -/
def composition? (a b : Char) : Option Char :=
  let whole := decomposition a ++ [b]
  Hangul.composition? a b <|>
    (composable.entries.find? fun (_, parts) => parts = whole).map fun (c, _) => Char.ofNat c

/-- Composes `c` with a base, unless one of the marks between them, the last of which comes first,
is in the way. -/
def taken? (base : Char) (between : List Char) (c : Char) : Option Char :=
  match between with
  | [] => composition? base c
  | last :: _ => if combiningClass last < combiningClass c then composition? base c else none

/-- Composes a decomposed text, given the base before it and the marks that it did not take. -/
def composeAfter (base : Char) (between : List Char) : List Char → List Char
  | [] => base :: between.reverse
  | c :: rest =>
    match taken? base between c with
    | some base => composeAfter base between rest
    | none =>
      if combiningClass c = 0 then base :: between.reverse ++ composeAfter c [] rest
      else composeAfter base (c :: between) rest

/-- Composes a decomposed text; marks before the first base stay. -/
def compose : List Char → List Char
  | [] => []
  | c :: rest => if combiningClass c = 0 then composeAfter c [] rest else c :: compose rest

/-- The composed form of a text. -/
def normalize (text : List Char) : List Char :=
  compose (decompose text)

end ImageGraph.Web.Unicode
