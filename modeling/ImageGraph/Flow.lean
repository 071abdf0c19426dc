import ImageGraph.Role.Classify

/-!
The flow of a request: the first of tool, kontext, image-to-image and text-to-image that the
ancestors call for.
-/

namespace ImageGraph

inductive Flow where
  | tool
  | kontext
  | imageToImage
  | textToImage
  deriving Repr, DecidableEq

/-- The first ancestor that is a tool. -/
def firstTool? (ancestors : List Classified) : Option (Classified × Tool) :=
  ancestors.findSome? fun a =>
    match a.role with
    | .tool t => some (a, t)
    | _ => none

/-- The first ancestor that is a kontext transform. -/
def firstKontext? (ancestors : List Classified) : Option (Classified × Kontext) :=
  ancestors.findSome? fun a =>
    match a.role with
    | .kontext k => some (a, k)
    | _ => none

namespace Flow

def all : List Flow := [tool, kontext, imageToImage, textToImage]

def name : Flow → String
  | tool => "tool"
  | kontext => "flux-kontext"
  | imageToImage => "i2i"
  | textToImage => "t2i"

def of (ancestors : List Classified) : Flow :=
  if (firstTool? ancestors).isSome then tool
  else if (firstKontext? ancestors).isSome then kontext
  else if ancestors.any fun a => a.role == .imageToImage then imageToImage
  else textToImage

def toJson (f : Flow) : Json := .str f.name

def ofJson? : Json → Option Flow := Json.choice? all name

end Flow

end ImageGraph
