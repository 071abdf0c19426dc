import ImageGraph.Graph.Node

/-!
Why a graph yields no request.
-/

namespace ImageGraph

inductive CompileError where
  | unknownNode (id : NodeId)
  | missingBaseImage (flow : String)
  | missingTaggedImage (tag : String)
  | missingMask
  | missingImages (subtype : String)
  | unsupportedSubtype (node : NodeId) (subtype : String)
  deriving Repr, DecidableEq

def CompileError.message : CompileError → String
  | unknownNode id => "Node '" ++ id ++ "' not found in graph"
  | missingBaseImage flow => "The " ++ flow ++ " flow requires an uploaded base image"
  | missingTaggedImage tag => "Rescene requires an image tagged " ++ tag
  | missingMask => "Inpainting requires an uploaded mask"
  | missingImages subtype =>
    "The " ++ subtype ++ " transform requires at least one uploaded image"
  | unsupportedSubtype node subtype =>
    "Unsupported subtype '" ++ subtype ++ "' on node '" ++ node ++ "'"

end ImageGraph
