import ImageGraph.Rehearsal.Web.Unicode.Direction

/-!
Directions in domain names. If a domain name holds characters that run from right to left, each of
its labels has to keep one direction and to end in a character that keeps it.
-/

namespace ImageGraph.Web.Domain

open Unicode

/-- Holds if the label makes its domain name one with two directions. -/
def hasRightToLeft (label : List Char) : Bool :=
  label.any fun c => [.rightToLeft, .arabicLetter, .arabicNumber].contains (Direction.of c)

/-- The classes that may stand in a label of either direction. -/
def neutrals : List Direction :=
  [.europeanNumber, .europeanSeparator, .commonSeparator, .europeanTerminator, .otherNeutral,
    .boundaryNeutral, .nonspacingMark]

/-- Holds if the label ends in one of the classes, marks aside. -/
def endsIn (classes : List Direction) (label : List Direction) : Bool :=
  match label.reverse.dropWhile (· = .nonspacingMark) with
  | [] => false
  | last :: _ => classes.contains last

def runsLeftToRight (label : List Direction) : Bool :=
  label.head? = some .leftToRight && label.all (.leftToRight :: neutrals).contains &&
    endsIn [.leftToRight, .europeanNumber] label

/-- A label from right to left may have numbers of one kind. -/
def runsRightToLeft (label : List Direction) : Bool :=
  (label.head? = some .rightToLeft || label.head? = some .arabicLetter) &&
    label.all (.rightToLeft :: .arabicLetter :: .arabicNumber :: neutrals).contains &&
    endsIn [.rightToLeft, .arabicLetter, .europeanNumber, .arabicNumber] label &&
    !(label.contains .europeanNumber && label.contains .arabicNumber)

/-- Holds if the label may stand in a domain name with two directions. -/
def keepsDirection (label : List Char) : Bool :=
  let classes := label.map Direction.of
  label.isEmpty || runsLeftToRight classes || runsRightToLeft classes

end ImageGraph.Web.Domain
