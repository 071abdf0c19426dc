import ImageGraph.Rehearsal.Web.Domain.Direction
import ImageGraph.Rehearsal.Web.Domain.Label
import ImageGraph.Rehearsal.Web.Parts

/-!
Domain names in ASCII, in the one form under which they are looked up.
-/

namespace ImageGraph.Web.Domain

open Text

/-- Holds for a name of plain ASCII labels, which have no other form. -/
def isPlain (name : List Char) : Bool :=
  name.all Punycode.isAscii &&
    (parts '.' name).all fun label => (dropStart? asciiMark label).isNone

/-- The ASCII form of a domain name, if it has one. Labels may be empty. -/
def ascii? (name : List Char) : Option (List Char) :=
  if isPlain (name.map Char.toLower) then some (name.map Char.toLower)
  else do
    let labels ← (parts '.' (← normal? name)).mapM label?
    guard (!labels.any hasRightToLeft || labels.all keepsDirection)
    pure (['.'].intercalate (labels.map labelAscii))

end ImageGraph.Web.Domain
