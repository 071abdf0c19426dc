import ImageGraph.Json.Fields
import ImageGraph.Timestamp

/-!
Records of generation attempts. An attempt is idle, then running, and ends as succeeded, failed or
canceled.
-/

namespace ImageGraph

abbrev RecordId := String

inductive Status where
  | idle
  | running
  | succeeded
  | failed
  | canceled
  deriving Repr, DecidableEq

namespace Status

def all : List Status := [idle, running, succeeded, failed, canceled]

def name : Status → String
  | idle => "idle"
  | running => "running"
  | succeeded => "succeeded"
  | failed => "failed"
  | canceled => "canceled"

def mayBecome : Status → Status → Bool
  | idle, running | idle, failed | idle, canceled => true
  | running, succeeded | running, failed | running, canceled => true
  | _, _ => false

end Status

structure Record where
  id : RecordId
  workflowId : String
  outputNodeId : String
  /-- The request as it was compiled. -/
  request : Json
  response : Option Json
  status : Status
  createdAt : Timestamp
  startedAt : Option Timestamp
  endedAt : Option Timestamp
  error : Option String
  /-- The place in the order of creation; it is not part of the record as data. A natural number
  stands for one of 64 bits here: the two are the same for fewer than `2 ^ 64` creations. -/
  seq : Nat

open Json

def Timestamp.toJson (t : Timestamp) : Json := .str t.text

def Timestamp.ofJson? (j : Json) : Option Timestamp := j.string?.bind parse?

namespace Record

def toJson (r : Record) : Json :=
  .obj [("createdAt", r.createdAt.toJson), ("endedAt", ofOption Timestamp.toJson r.endedAt),
    ("error", ofOption .str r.error), ("id", .str r.id), ("outputNodeId", .str r.outputNodeId),
    ("request", r.request), ("response", r.response.getD .null),
    ("startedAt", ofOption Timestamp.toJson r.startedAt), ("status", .str r.status.name),
    ("workflowId", .str r.workflowId)]

def ofJson? (j : Json) : Option Record := do
  let field ← j.record? ["id", "workflowId", "outputNodeId", "request", "response", "status",
    "createdAt", "startedAt", "endedAt", "error"]
  pure {
    id := ← (field "id").required string?
    workflowId := ← (field "workflowId").required string?
    outputNodeId := ← (field "outputNodeId").required string?
    request := ← (field "request").required some
    response := ← (field "response").optional some
    status := ← (field "status").required (choice? Status.all Status.name)
    createdAt := ← (field "createdAt").required Timestamp.ofJson?
    startedAt := ← (field "startedAt").optional Timestamp.ofJson?
    endedAt := ← (field "endedAt").optional Timestamp.ofJson?
    error := ← (field "error").optional string?
    seq := 0 }

end Record

end ImageGraph
