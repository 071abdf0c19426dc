import ImageGraph.Graph.Node
import ImageGraph.Role.Basic
import ImageGraph.Text.Affix

/-!
The role of a node. Its type string is the `role` attribute with its `subtype`, if there is one,
and the node's type otherwise; what the string begins with decides the family.
-/

namespace ImageGraph

inductive Family where
  | engine
  | lora
  | prompt
  | controlNet
  | tool
  | kontext
  | imageToImage
  | imageSource
  | output
  deriving Repr, DecidableEq

namespace Family

/-- What type strings begin with, longest first, so that `image-to-image` wins over `image`. -/
def starts : List (String × Family) :=
  [("image-to-image", imageToImage), ("image-source", imageSource), ("control-net", controlNet),
    ("controlnet", controlNet), ("kontext", kontext), ("engine", engine), ("output", output),
    ("prompt", prompt), ("upload", imageSource), ("image", imageSource), ("model", engine),
    ("lora", lora), ("tool", tool), ("i2i", imageToImage)]

/-- What follows `start` in a type string: nothing, or a subtype after a hyphen. -/
def subtypeAfter? (start type : String) : Option String :=
  match Text.dropStart? start.toList type.toList with
  | some [] => some ""
  | some ('-' :: subtype) => some (String.ofList subtype)
  | _ => none

/-- The family and the subtype of a type string. -/
def split? (type : String) : Option (Family × String) :=
  starts.findSome? fun (start, family) => (subtypeAfter? start type).map (family, ·)

end Family

namespace Role

/-- The role of a family member; `polarity` is what a prompt says of itself. -/
def ofFamily (type : String) (polarity : Option String) : Family → String → Role
  | .engine, _ => engine
  | .lora, _ => lora
  | .output, _ => output
  | .imageSource, _ => imageSource
  | .prompt, subtype =>
    if polarity.getD subtype = "negative" then prompt .negative else prompt .positive
  | .controlNet, subtype => controlNet (.ofSubtype subtype)
  | .tool, subtype => ((Tool.ofSubtype? subtype).map tool).getD (unsupported type)
  | .kontext, subtype => ((Kontext.ofSubtype? subtype).map kontext).getD (unsupported type)
  | .imageToImage, "" => imageToImage
  | .imageToImage, subtype =>
    ((Tool.ofSubtype? subtype).map tool <|> (Kontext.ofSubtype? subtype).map kontext).getD
      (unsupported type)

end Role

namespace Node

/-- The type string of a node, without blanks at its ends and in small letters. -/
def typeString (n : Node) : String :=
  let type := match n.text? "role", n.text? "subtype" with
    | some role, some subtype => role ++ "-" ++ subtype
    | some role, none => role
    | none, _ => n.kind
  Text.lower (Text.trim type)

def role (n : Node) : Role :=
  match Family.split? n.typeString with
  | none => .passThrough
  | some (family, subtype) =>
    .ofFamily n.typeString ((n.text? "polarity").map fun p => Text.lower (Text.trim p)) family
      subtype

end Node

/-- A node together with its role. -/
structure Classified where
  node : Node
  role : Role

def Node.classify (n : Node) : Classified := ⟨n, n.role⟩

end ImageGraph
