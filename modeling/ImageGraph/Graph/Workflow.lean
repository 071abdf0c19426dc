import ImageGraph.Graph.Node
import ImageGraph.Json.Fields

/-!
Workflows: nodes and the edges between them, in the order in which they were drawn.
-/

namespace ImageGraph

/-- The node `target` consumes what `source` produces. -/
structure Edge where
  id : String
  source : NodeId
  target : NodeId
  deriving Repr, DecidableEq

structure Workflow where
  id : String
  name : String
  nodes : List Node
  edges : List Edge

namespace Workflow

/-- The first node with an id. -/
def node? (w : Workflow) (id : NodeId) : Option Node :=
  w.nodes.find? fun n => n.id == id

/-- Merges a patch into the first node with an id. -/
def mergeInto (id : NodeId) (patch : Json.Object) : List Node → List Node
  | [] => []
  | n :: rest => if n.id = id then n.merge patch :: rest else n :: mergeInto id patch rest

/-- Merges a patch into a node; a patch for no node is ignored. -/
def update (w : Workflow) (id : NodeId) (patch : Json.Object) : Workflow :=
  { w with nodes := mergeInto id patch w.nodes }

end Workflow

open Json

def Node.toJson (n : Node) : Json :=
  .obj [("data", n.data), ("id", .str n.id), ("nodeType", .str n.kind)]

/-- Data that is left out is null. -/
def Node.ofJson? (j : Json) : Option Node := do
  let field ← j.record? ["id", "nodeType", "data"]
  pure {
    id := ← (field "id").required string?
    kind := ← (field "nodeType").required string?
    data := ← (field "data").withDefault .null some }

def Edge.toJson (e : Edge) : Json :=
  .obj [("id", .str e.id), ("source", .str e.source), ("target", .str e.target)]

def Edge.ofJson? (j : Json) : Option Edge := do
  let field ← j.record? ["id", "source", "target"]
  pure {
    id := ← (field "id").required string?
    source := ← (field "source").required string?
    target := ← (field "target").required string? }

def Workflow.toJson (w : Workflow) : Json :=
  .obj [("edges", .arr (w.edges.map Edge.toJson)), ("id", .str w.id), ("name", .str w.name),
    ("nodes", .arr (w.nodes.map Node.toJson))]

def Workflow.ofJson? (j : Json) : Option Workflow := do
  let field ← j.record? ["id", "name", "nodes", "edges"]
  pure {
    id := ← (field "id").required string?
    name := ← (field "name").withDefault "" string?
    nodes := ← (field "nodes").required (listOf? Node.ofJson?)
    edges := ← (field "edges").required (listOf? Edge.ofJson?) }

end ImageGraph
