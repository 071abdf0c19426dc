import ImageGraph.Flow
import ImageGraph.Json.Fields

/-!
What an execution reports of its progress.
-/

namespace ImageGraph

inductive Event where
  | executionStarted (workflowId outputNodeId : String)
  | uploadsCompleted (outputNodeId : String) (uploaded : UInt64)
  | generationStarted (generationId outputNodeId : String) (flow : Flow) (method : String)
  | preprocessCompleted (generationId nodeId guideUrl : String)
  | generationSucceeded (generationId outputNodeId imageUrl : String)
  /-- Without a generation if the execution failed before it had a record. -/
  | generationFailed (generationId : Option String) (outputNodeId error : String)
  deriving Repr, DecidableEq

/-- A sink that did not take an event. -/
structure SinkError where
  reason : String
  deriving Repr, DecidableEq

def SinkError.message (e : SinkError) : String :=
  "Event error: " ++ e.reason

namespace Event

open Json

def toJson : Event → Json
  | executionStarted workflow output =>
    .obj [("outputNodeId", .str output), ("type", .str "executionStarted"),
      ("workflowId", .str workflow)]
  | uploadsCompleted output uploaded =>
    .obj [("outputNodeId", .str output), ("type", .str "uploadsCompleted"),
      ("uploaded", ofUInt64 uploaded)]
  | generationStarted generation output flow method =>
    .obj [("flow", flow.toJson), ("generationId", .str generation), ("method", .str method),
      ("outputNodeId", .str output), ("type", .str "generationStarted")]
  | preprocessCompleted generation node guide =>
    .obj [("generationId", .str generation), ("guideUrl", .str guide), ("nodeId", .str node),
      ("type", .str "preprocessCompleted")]
  | generationSucceeded generation output image =>
    .obj [("generationId", .str generation), ("imageUrl", .str image),
      ("outputNodeId", .str output), ("type", .str "generationSucceeded")]
  | generationFailed generation output error =>
    .obj [("error", .str error), ("generationId", ofOption .str generation),
      ("outputNodeId", .str output), ("type", .str "generationFailed")]

/-- A flow inside an event may also be an object with its name and an empty object. -/
def flow? : Json → Option Flow
  | .obj [(name, .obj [])] => Flow.ofJson? (.str name)
  | j => Flow.ofJson? j

/-- The event of a type whose fields are held by `j`. -/
def ofFields? (type : String) (j : Json) : Option Event :=
  match type with
  | "executionStarted" => do
    let field ← j.record? ["workflowId", "outputNodeId"]
    pure (executionStarted (← (field "workflowId").required string?)
      (← (field "outputNodeId").required string?))
  | "uploadsCompleted" => do
    let field ← j.record? ["outputNodeId", "uploaded"]
    pure (uploadsCompleted (← (field "outputNodeId").required string?)
      (← (field "uploaded").required uint64?))
  | "generationStarted" => do
    let field ← j.record? ["generationId", "outputNodeId", "flow", "method"]
    pure (generationStarted (← (field "generationId").required string?)
      (← (field "outputNodeId").required string?) (← (field "flow").required flow?)
      (← (field "method").required string?))
  | "preprocessCompleted" => do
    let field ← j.record? ["generationId", "nodeId", "guideUrl"]
    pure (preprocessCompleted (← (field "generationId").required string?)
      (← (field "nodeId").required string?) (← (field "guideUrl").required string?))
  | "generationSucceeded" => do
    let field ← j.record? ["generationId", "outputNodeId", "imageUrl"]
    pure (generationSucceeded (← (field "generationId").required string?)
      (← (field "outputNodeId").required string?) (← (field "imageUrl").required string?))
  | "generationFailed" => do
    let field ← j.record? ["generationId", "outputNodeId", "error"]
    pure (generationFailed (← (field "generationId").optional string?)
      (← (field "outputNodeId").required string?) (← (field "error").required string?))
  | _ => none

/-- Reads an object with its type under `type`, or an array that begins with the type. -/
def ofJson? : Json → Option Event
  | .obj entries => do ofFields? (← (← entries.lookup "type").string?) (.obj entries)
  | .arr (type :: fields) => do ofFields? (← type.string?) (.arr fields)
  | _ => none

end Event

end ImageGraph
