/-!
Media types: two tokens with a slash between them, and parameters after semicolons.
-/

namespace ImageGraph.Web.MediaType

/-- Where in a media type a character stands. A part is fresh while it has no character. -/
inductive Place where
  | type (fresh : Bool)
  | subtype (fresh : Bool)
  /-- The name of a parameter; a fresh one may have spaces in front. -/
  | name (fresh : Bool)
  | value (fresh : Bool)
  | quoted (fresh : Bool)
  | afterQuoted
  deriving Repr, DecidableEq

def isToken (c : Char) : Bool :=
  c.isAlphanum || "!#$%&'*+-.^_\x60|~".toList.contains c

namespace Place

def next? : Place → Char → Option Place
  | type false, '/' => some (subtype true)
  | type _, c => if isToken c then some (type false) else none
  | subtype false, ';' => some (name true)
  | subtype _, c => if isToken c then some (subtype false) else none
  | name true, ' ' => some (name true)
  | name false, '=' => some (value true)
  | name _, c => if isToken c then some (name false) else none
  | value true, '"' => some (quoted true)
  | value false, ';' => some (name true)
  | value _, c => if isToken c then some (value false) else none
  | quoted false, '"' => some afterQuoted
  | quoted _, c => if 32 ≤ c.toNat ∧ c.toNat ≠ 127 then some (quoted false) else none
  | afterQuoted, ';' => some (name true)
  | afterQuoted, ' ' => some afterQuoted
  | afterQuoted, _ => none

/-- A media type may end here. -/
def isLast : Place → Bool
  | subtype _ | name true | value _ | afterQuoted => true
  | _ => false

end Place

/-- Holds for the texts that may be sent as the type of a part. -/
def wellFormed (text : String) : Bool :=
  (text.toList.foldlM Place.next? (.type true)).any Place.isLast

end ImageGraph.Web.MediaType
