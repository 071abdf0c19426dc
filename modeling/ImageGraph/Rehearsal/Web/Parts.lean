/-!
Texts cut at marks.
-/

namespace ImageGraph.Web

/-- The parts of a text between the marks, one more than there are marks. -/
def parts (mark : Char) : List Char → List (List Char)
  | [] => [[]]
  | c :: rest =>
    if c = mark then [] :: parts mark rest
    else
      match parts mark rest with
      | [] => [[c]]
      | p :: ps => (c :: p) :: ps

/-- The part before the first mark, and the part after it, if there is one. -/
def cut (mark : Char) (text : List Char) : List Char × Option (List Char) :=
  match text.dropWhile (· ≠ mark) with
  | [] => (text, none)
  | _ :: after => (text.takeWhile (· ≠ mark), some after)

/-- The part before the last mark, if there is one, and the part after it. -/
def cutLast (mark : Char) (text : List Char) : Option (List Char) × List Char :=
  match text.reverse.dropWhile (· ≠ mark) with
  | [] => (none, text)
  | _ :: before => (some before.reverse, (text.reverse.takeWhile (· ≠ mark)).reverse)

end ImageGraph.Web
