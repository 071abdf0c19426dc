import ImageGraph.Execution.Error
import ImageGraph.Execution.World

/-!
What a host does with an engine: it starts executions, and it reads and changes the shared state.
-/

namespace ImageGraph

/-- What a host can do to the shared state without a service call. -/
inductive Command where
  | compile (output : NodeId)
  | update (node : NodeId) (patch : Json)
  | readData (node : NodeId)
  | readNode (node : NodeId)
  | readWorkflow
  | create (workflow output : String) (request : Json)
  | markRunning (id : RecordId)
  | markSucceeded (id : RecordId) (response : Json)
  | markFailed (id : RecordId) (error : String)
  | markCanceled (id : RecordId)
  | readRecord (id : RecordId)
  | readLatest (output : String)
  | readRecords (workflow : String)
  | clear (workflow : String)
  | readSize

/-- What a host can do. -/
inductive Action where
  | execute (output : NodeId)
  | command (c : Command)

/-- What comes of an action. -/
inductive Outcome where
  | executed (result : Except ExecutionError Record)
  | compiled (result : Except CompileError Request)
  | updated
  /-- The patch is no object. -/
  | refused
  | data (data : Option Json)
  | node (node : Option Node)
  | workflow (workflow : Workflow)
  | marked (result : Except StoreError Record)
  | record (record : Option Record)
  | records (records : List Record)
  | removed (count : Nat)
  | size (size : Nat)

/-- Applies a transition of the store on behalf of the host. -/
def World.markFor (w : World) (change : Store → Except StoreError (Record × Store)) :
    Outcome × World :=
  match w.mark change with
  | .ok (record, w) => (.marked (.ok record), w)
  | .error e => (.marked (.error e), w)

def Command.perform (w : World) : Command → Outcome × World
  | compile output => (.compiled (w.compile output), w)
  | update node patch =>
    match patch.object? with
    | some patch => (.updated, w.update node patch)
    | none => (.refused, w)
  | readData node => (.data ((w.workflow.node? node).map Node.data), w)
  | readNode node => (.node (w.workflow.node? node), w)
  | readWorkflow => (.workflow w.workflow, w)
  | create workflow output request =>
    let (record, w) := w.createRecord workflow output request
    (.marked (.ok record), w)
  | markRunning id => w.markFor fun s => s.markRunning w.now id
  | markSucceeded id response => w.markFor fun s => s.markSucceeded w.now id response
  | markFailed id error => w.markFor fun s => s.markFailed w.now id error
  | markCanceled id => w.markFor fun s => s.markCanceled w.now id
  | readRecord id => (.record (w.store.get? id), w)
  | readLatest output => (.record (w.store.latest? output), w)
  | readRecords workflow => (.records (w.store.recordsOf workflow), w)
  | clear workflow =>
    let (count, store) := w.store.clear workflow
    (.removed count, { w with store })
  | readSize => (.size w.store.size, w)

end ImageGraph
