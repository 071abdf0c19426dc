import ImageGraph.Text.Hexadecimal

/-!
Properties of characters, by tables that are written as text in hexadecimal numbers. A set of
characters has a word for each single one and for each range `first-last`. A map has words
`first:image,image` with the images of as many characters in a row; an image is a character or a
sequence `a.b`. The tables follow version 18 of Unicode.
-/

namespace ImageGraph.Web.Unicode

/-- Closed ranges of code points. -/
structure Ranges where
  ranges : List (Nat × Nat)

/-- Sequences of characters by code point. -/
structure Images where
  entries : List (Nat × List Char)

/-- The words of a table, which stand between spaces and line ends. -/
def words (table : String) : List String :=
  (table.splitOn "\n").flatMap fun line => (line.splitOn " ").filter (· ≠ "")

def number (word : String) : Nat :=
  (Text.Hex.number? 16 word.toList).getD 0

namespace Ranges

def ofWord (word : String) : Nat × Nat :=
  match word.splitOn "-" with
  | [first, last] => (number first, number last)
  | _ => (number word, number word)

def ofTable (table : String) : Ranges where
  ranges := (words table).map ofWord

def contains (r : Ranges) (c : Char) : Bool :=
  r.ranges.any fun (first, last) => first ≤ c.toNat && c.toNat ≤ last

end Ranges

namespace Images

def sequence (image : String) : List Char :=
  (image.splitOn ".").map fun word => Char.ofNat (number word)

def ofWord (word : String) : List (Nat × List Char) :=
  match word.splitOn ":" with
  | [first, images] =>
    (images.splitOn ",").zipIdx.map fun (image, i) => (number first + i, sequence image)
  | _ => []

def ofTable (table : String) : Images where
  entries := (words table).flatMap ofWord

def image? (m : Images) (c : Char) : Option (List Char) :=
  m.entries.lookup c.toNat

end Images

end ImageGraph.Web.Unicode
