/-!
Blank characters and trimming. The class is the Unicode property White_Space, so a no-break space
is blank and a zero-width space is not.
-/

namespace ImageGraph.Text

/-- The ranges of code points with the property White_Space. -/
def blankRanges : List (Nat × Nat) :=
  [(0x09, 0x0d), (0x20, 0x20), (0x85, 0x85), (0xa0, 0xa0), (0x1680, 0x1680), (0x2000, 0x200a),
    (0x2028, 0x2029), (0x202f, 0x202f), (0x205f, 0x205f), (0x3000, 0x3000)]

def isBlank (c : Char) : Bool :=
  blankRanges.any fun (low, high) => low ≤ c.toNat && c.toNat ≤ high

def trimStart (s : List Char) : List Char :=
  s.dropWhile isBlank

def trimEnd (s : List Char) : List Char :=
  (s.reverse.dropWhile isBlank).reverse

/-- Removes the blank characters at both ends. -/
def trim (s : String) : String :=
  String.ofList (trimEnd (trimStart s.toList))

/-- Holds for a text of blank characters only, the empty text included. -/
def allBlank (s : String) : Bool :=
  s.toList.all isBlank

/-- A letter A to Z becomes its small letter; every other character stays. -/
def lower (s : String) : String :=
  String.ofList (s.toList.map Char.toLower)

end ImageGraph.Text
