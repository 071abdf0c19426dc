import ImageGraph.Request.Compile
import ImageGraph.Service.Output
import ImageGraph.Store.Basic
import ImageGraph.Upload

/-!
What executions share with one another and with their host: the workflow, the record store, and the
output nodes that are taken.
-/

namespace ImageGraph

structure World where
  settings : Settings
  workflow : Workflow
  /-- The names for records, in the order in which they are given out. -/
  recordName : Nat → RecordId
  store : Store := {}
  /-- How many names are given out. -/
  named : Nat := 0
  /-- The output nodes with an execution in progress, kept only where overlap is rejected. -/
  inFlight : List NodeId := []
  /-- The time that records are stamped with. -/
  now : Timestamp := .epoch

namespace World

/-- Merges a patch into a node. -/
def update (w : World) (node : NodeId) (patch : Json.Object) : World :=
  { w with workflow := w.workflow.update node patch }

def compile (w : World) (target : NodeId) : Except CompileError Request :=
  w.workflow.compile w.settings target

/-- Creates a record under the next name. -/
def createRecord (w : World) (workflow output : String) (request : Json) : Record × World :=
  let (record, store) := w.store.create (w.recordName w.named) w.now workflow output request
  (record, { w with store, named := w.named + 1 })

/-- Applies a transition of the store. -/
def mark (w : World) (change : Store → Except StoreError (Record × Store)) :
    Except StoreError (Record × World) :=
  (change w.store).map fun (record, store) => (record, { w with store })

/-- Applies a transition of the store; if the store refuses it, nothing happens. -/
def tryMark (w : World) (change : Store → Except StoreError (Record × Store)) : World :=
  match w.mark change with
  | .ok (_, w) => w
  | .error _ => w

/-- Takes an output node, unless overlap is rejected and it is taken. -/
def enter? (w : World) (output : NodeId) : Option World :=
  match w.settings.overlapPolicy with
  | .allow => some w
  | .reject =>
    if output ∈ w.inFlight then none else some { w with inFlight := output :: w.inFlight }

/-- Gives an output node back. -/
def leave (w : World) (output : NodeId) : World :=
  match w.settings.overlapPolicy with
  | .allow => w
  | .reject => { w with inFlight := w.inFlight.filter fun id => id ≠ output }

end World

/-- What a successful generation leaves on its output node. An attribute that the output lacks is
not touched, but an identifier that it lacks is removed, and so is an earlier error. -/
def Output.patch (o : Output) (record : RecordId) : Json.Object :=
  Json.Object.empty.insert "imageUrl" (.str o.imageUrl)
    |>.insert "imageId" (Json.ofOption .str o.imageId)
    |>.insert "generationId" (.str record)
    |>.insertSome "seed" (o.seed.map Json.ofInt64)
    |>.insertSome "prompt" (o.prompt.map .str)
    |>.insertSome "nsfw" (o.nsfw.map .bool)
    |>.insert "error" .null

/-- What a failed execution leaves on its output node. -/
def ExecutionError.patch (message : String) : Json.Object :=
  Json.Object.empty.insert "error" (.str message)

end ImageGraph
