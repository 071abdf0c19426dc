import ImageGraph.Event
import ImageGraph.Execution.Error
import ImageGraph.Execution.World

/-!
One execution, from one service call to the next. It uploads what its ancestors hold locally,
compiles, creates a record, makes the guides one after the other and then makes the main call.
Between its calls it holds a stage; anything may happen to the world while it waits for an answer.
-/

namespace ImageGraph

/-- What an execution waits for. -/
inductive Stage where
  /-- An upload, with those after it, the number of all, and the first failure so far. -/
  | uploading (current : PendingUpload) (rest : List PendingUpload) (total : Nat)
      (failure : Option ExecutionError)
  /-- The guide of a step, with the steps after it and the main call as it stands. -/
  | preprocessing (record : RecordId) (step : PreprocessStep) (rest : List PreprocessStep)
      (main : MainStep)
  | generating (record : RecordId) (main : MainStep)

def Stage.call : Stage → ServiceCall
  | uploading current _ _ _ => .upload current.data
  | preprocessing _ step _ _ => .preprocess step.sourceImage step.preprocessor
  | generating _ main => .main main

/-- What an execution is for. The workflow keeps the name that it had at the trigger. -/
structure Trigger where
  workflowId : String
  output : NodeId

inductive Progress where
  | waiting (stage : Stage)
  | returned (result : Except ExecutionError Record)

/-- What an execution did up to its next service call or its end. -/
structure Turn where
  world : World
  events : List Event
  progress : Progress

namespace Turn

/-- Puts events in front. -/
def after (t : Turn) (events : List Event) : Turn :=
  { t with events := events ++ t.events }

end Turn

namespace Trigger

/-- Ends in failure: the record, if there is one, and the output node carry the message. -/
def fail (t : Trigger) (w : World) (record : Option RecordId) (e : ExecutionError) : Turn :=
  let marked := match record with
    | some id => w.tryMark fun s => s.markFailed w.now id e.message
    | none => w
  { world := (marked.update t.output (ExecutionError.patch e.message)).leave t.output
    events := [.generationFailed record t.output e.message]
    progress := .returned (.error e) }

/-- Waits for the guide of the first step, or without steps for the main call. -/
def next (record : RecordId) (steps : List PreprocessStep) (main : MainStep) : Stage :=
  match steps with
  | [] => .generating record main
  | step :: rest => .preprocessing record step rest main

/-- Compiles the graph as it stands and creates the record. -/
def prepare (t : Trigger) (w : World) : Turn :=
  match w.compile t.output with
  | .error e => t.fail w none (.compilation e)
  | .ok request =>
    let (record, w) := w.createRecord t.workflowId t.output request.toJson
    match w.mark fun s => s.markRunning w.now record.id with
    | .error e => t.fail w (some record.id) (.store e)
    | .ok (_, w) =>
      { world := w
        events := [.generationStarted record.id t.output request.flow request.main.method.name]
        progress := .waiting (next record.id request.preprocess request.main) }

/-- Goes on with the uploads, or after the last of them with the request. The first failure counts,
and only when all uploads have ended. -/
def proceed (t : Trigger) (w : World) (uploads : List PendingUpload) (total : Nat)
    (failure : Option ExecutionError) : Turn :=
  match uploads, failure with
  | current :: rest, _ =>
    { world := w, events := [], progress := .waiting (.uploading current rest total failure) }
  | [], some e => t.fail w none e
  | [], none =>
    if total = 0 then t.prepare w
    else (t.prepare w).after [.uploadsCompleted t.output (.ofNat total)]

/-- Ends in success: the output node carries the image, whatever the store says next. -/
def succeed (t : Trigger) (w : World) (record : RecordId) (response : Json) (output : Output) :
    Turn :=
  let w := w.update t.output (output.patch record)
  match w.mark fun s => s.markSucceeded w.now record response with
  | .error e => t.fail w (some record) (.store e)
  | .ok (r, w) =>
    { world := w.leave t.output
      events := [.generationSucceeded r.id t.output output.imageUrl]
      progress := .returned (.ok r) }

/-- Goes on after the answer to the call of a stage. -/
def resume (t : Trigger) (w : World) : (s : Stage) → s.call.Answer → Turn
  | .uploading current rest total failure, .ok (image : UploadedImage) =>
    t.proceed { w with workflow := w.workflow.settle current image } rest total failure
  | .uploading current rest total failure, .error e =>
    t.proceed w rest total (failure <|> some (.upload current.nodeId e))
  | .preprocessing record step rest main, .ok (guideUrl : String) =>
    { world := w.update step.nodeId (Json.Object.empty.insert "guideUrl" (.str guideUrl))
      events := [.preprocessCompleted record step.nodeId guideUrl]
      progress := .waiting (next record rest (main.addControl (step.entry guideUrl))) }
  | .preprocessing record step _ _, .error e =>
    t.fail w (some record) (.preprocessing step.nodeId e)
  | .generating record _, .ok (response : Json) =>
    match Output.ofResponse response with
    | .error e => t.fail w (some record) (.ofMainCall e)
    | .ok output => t.succeed w record response output
  | .generating record _, .error e => t.fail w (some record) (.ofMainCall e)

end Trigger

/-- Starts an execution for an output node, unless the node is taken. -/
def World.trigger (w : World) (output : NodeId) : Turn :=
  match w.enter? output with
  | none => { world := w, events := [], progress := .returned (.error (.alreadyRunning output)) }
  | some w =>
    let t : Trigger := ⟨w.workflow.id, output⟩
    let uploads := pendingUploads (ancestors w.workflow.nodes w.workflow.edges output)
    (t.proceed w uploads uploads.length none).after [.executionStarted t.workflowId output]

end ImageGraph
