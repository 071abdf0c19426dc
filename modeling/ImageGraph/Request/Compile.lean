import ImageGraph.Graph.Ancestors
import ImageGraph.Request.Generative
import ImageGraph.Request.Transform

/-!
Compilation of a graph into the request for one of its nodes. It has no effects, and it reports
what is missing before anything is sent.
-/

namespace ImageGraph

namespace Lineage

/-- The first ancestor of an unsupported type. -/
def unsupported? (l : Lineage) : Option CompileError :=
  l.ancestors.findSome? fun a =>
    match a.role with
    | .unsupported subtype => some (.unsupportedSubtype a.node.id subtype)
    | _ => none

def request (l : Lineage) : Except CompileError Request :=
  match l.unsupported? with
  | some e => .error e
  | none =>
    match Flow.of l.ancestors with
    | .tool => l.tool
    | .kontext => l.kontext
    | .imageToImage => l.imageToImage
    | .textToImage => l.textToImage

end Lineage

/-- The request for `target`. -/
def compile (settings : Settings) (nodes : List Node) (edges : List Edge) (target : NodeId) :
    Except CompileError Request :=
  match ancestors nodes edges target with
  | [] => .error (.unknownNode target)
  | found => Lineage.request ⟨target, found.map Node.classify, settings⟩

def Workflow.compile (w : Workflow) (settings : Settings) (target : NodeId) :
    Except CompileError Request :=
  ImageGraph.compile settings w.nodes w.edges target

end ImageGraph
