import ImageGraph.Rehearsal.Web.Domain.Joiners
import ImageGraph.Rehearsal.Web.Domain.Mapping
import ImageGraph.Text.Affix
import ImageGraph.Rehearsal.Web.Punycode
import ImageGraph.Rehearsal.Web.Unicode.Mark

/-!
Labels of domain names, which stand between the dots. A label is written in Unicode, or in ASCII
after `xn--`.
-/

namespace ImageGraph.Web.Domain

open Text

/-- What marks a label that is written in ASCII for one with other characters. -/
def asciiMark : List Char := "xn--".toList

/-- Longer labels are written in ASCII only if they are in ASCII. -/
def longestLabel : Nat := 1000

/-- Longer labels are not read from their ASCII form. -/
def longestAscii : Nat := 2000

/-- Holds for a label of mapped characters that may stand in a domain name. -/
def wellFormed (label : List Char) : Bool :=
  !(label.head?.any Unicode.isMark) && joinersFit [] label &&
    (label.all Punycode.isAscii || label.length ≤ longestLabel)

/-- Reads what follows the mark of a label in ASCII. It has to stand for a label that needs the mark
and is in normal form. -/
def ofAscii? (text : List Char) : Option (List Char) := do
  guard (text.length ≤ longestAscii)
  let label ← Punycode.decode? text
  guard (!label.all Punycode.isAscii && normal? label = some label && wellFormed label)
  pure label

/-- Reads a label of mapped characters. -/
def label? (text : List Char) : Option (List Char) :=
  match dropStart? asciiMark text with
  | some text => ofAscii? text
  | none => if wellFormed text then some text else none

/-- Writes a label in ASCII. -/
def labelAscii (label : List Char) : List Char :=
  if label.all Punycode.isAscii then label else asciiMark ++ Punycode.encode label

end ImageGraph.Web.Domain
