import ImageGraph.Decimal.Reading
import ImageGraph.Json.Object
import ImageGraph.Text.Blank

/-!
Nodes and their attributes. Attributes are read leniently: a blank text counts as absent, and a
number may be given as text.
-/

namespace ImageGraph

abbrev NodeId := String

structure Node where
  id : NodeId
  /-- The namespaced type, such as `control-net-pose`. -/
  kind : String
  data : Json

/-- Overwrites with the entries of `patch`; an entry that is null removes its key. -/
def Json.Object.patch (o patch : Json.Object) : Json.Object :=
  patch.entries.foldl (fun o e => if e.2.isNull then o.erase e.1 else o.insert e.1 e.2) o

namespace Node

def attribute? (node : Node) (key : String) : Option Json :=
  node.data.field? key

/-- A text attribute that is not blank. -/
def text? (node : Node) (key : String) : Option String :=
  ((node.attribute? key).bind Json.string?).filter fun s => !Text.allBlank s

/-- A numeric attribute; a text is trimmed and read as a number. -/
def number? (node : Node) (key : String) : Option Float :=
  match node.attribute? key with
  | some (.num n) => some n.toFloat
  | some (.str s) => Decimal.float? (Text.trim s).toList
  | _ => none

def flag? (node : Node) (key : String) : Option Bool :=
  (node.attribute? key).bind Json.bool?

/-- Merges attributes into the node; data that is no object gives way to one. -/
def merge (node : Node) (patch : Json.Object) : Node :=
  { node with data := ((node.data.object?.getD .empty).patch patch).toJson }

end Node

end ImageGraph
