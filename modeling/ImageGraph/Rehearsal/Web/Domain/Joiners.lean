import ImageGraph.Rehearsal.Web.Unicode.CombiningClass
import ImageGraph.Rehearsal.Web.Unicode.Joining

/-!
Joiners in domain names. A joiner has no form of its own, so it may stand only where it changes how
its neighbours are written: after a virama, and a non-joiner also between letters that would be
joined without it.
-/

namespace ImageGraph.Web.Domain

open Unicode

def nonJoiner : Char := '\u200c'

def joiner : Char := '\u200d'

/-- Holds if the first of the characters that are not passed over satisfies `p`. -/
def meets (p : Char → Bool) (side : List Char) : Bool :=
  (side.dropWhile Joining.isTransparent).head?.any p

/-- Holds if the joiners of a label may stand in their places; `before` is what stands in front of
the given part, its last character first. -/
def joinersFit (before : List Char) : List Char → Bool
  | [] => true
  | c :: after =>
    let afterVirama := before.head?.any fun v => combiningClass v = virama
    let between := meets Joining.joinsAfter before && meets Joining.joinsBefore after
    (c ≠ joiner || afterVirama) && (c ≠ nonJoiner || afterVirama || between) &&
      joinersFit (c :: before) after

end ImageGraph.Web.Domain
