import ImageGraph.Request.Basic
import ImageGraph.Role.Wire

/-!
Requests as data.
-/

namespace ImageGraph

open Json

def Method.toJson (m : Method) : Json := .str m.name

def Method.ofJson? : Json → Option Method := choice? Method.all Method.name

def ControlEntry.ofJson? (j : Json) : Option ControlEntry := do
  let field ← j.record? ["image", "strength", "model", "type"]
  pure {
    image := ← (field "image").required string?
    strength := ← (field "strength").required float?
    model := ← (field "model").required string?
    control := ← (field "type").required string? }

def PreprocessStep.toJson (p : PreprocessStep) : Json :=
  .obj [("controlType", p.control.toJson), ("model", .str p.model), ("nodeId", .str p.nodeId),
    ("preprocessor", .str p.preprocessor), ("sourceImage", .str p.sourceImage),
    ("strength", ofFloat p.strength)]

def PreprocessStep.ofJson? (j : Json) : Option PreprocessStep := do
  let field ←
    j.record? ["nodeId", "controlType", "sourceImage", "preprocessor", "strength", "model"]
  pure {
    nodeId := ← (field "nodeId").required string?
    control := ← (field "controlType").required Control.ofJson?
    sourceImage := ← (field "sourceImage").required string?
    preprocessor := ← (field "preprocessor").required string?
    strength := ← (field "strength").required float?
    model := ← (field "model").required string? }

def MainStep.toJson (m : MainStep) : Json :=
  .obj [("method", m.method.toJson), ("params", m.params.toJson)]

def MainStep.ofJson? (j : Json) : Option MainStep := do
  let field ← j.record? ["method", "params"]
  pure {
    method := ← (field "method").required Method.ofJson?
    params := ← (field "params").required object? }

def Request.toJson (r : Request) : Json :=
  .obj [("flow", r.flow.toJson), ("main", r.main.toJson),
    ("preprocess", .arr (r.preprocess.map PreprocessStep.toJson))]

def Request.ofJson? (j : Json) : Option Request := do
  let field ← j.record? ["flow", "preprocess", "main"]
  pure {
    flow := ← (field "flow").required Flow.ofJson?
    preprocess := ← (field "preprocess").required (listOf? PreprocessStep.ofJson?)
    main := ← (field "main").required MainStep.ofJson? }

def Lora.toJson (l : Lora) : Json :=
  .obj [("id", .str l.id), ("weight", ofFloat l.weight)]

def Lora.ofJson? (j : Json) : Option Lora := do
  let field ← j.record? ["id", "weight"]
  pure {
    id := ← (field "id").required string?
    weight := ← (field "weight").required float? }

end ImageGraph
