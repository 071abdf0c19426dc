import ImageGraph.Execution.Cycle
import ImageGraph.Proofs.Graph.Merge
import ImageGraph.Proofs.Store.Marking

/-! What an execution can do in one turn. It waits on, opens a record, fails or succeeds, and there
is nothing else; what holds of every turn is read off these four cases. -/

namespace ImageGraph

/-- A final event ends an execution. -/
def Event.isFinal : Event → Bool
  | generationSucceeded .. | generationFailed .. => true
  | _ => false

/-- The record that an execution has while it waits. -/
def Stage.record? : Stage → Option RecordId
  | uploading .. => none
  | preprocessing record .. => some record
  | generating record _ => some record

/-- An upload that failed earlier is no rejection. -/
def Stage.Sound : Stage → Prop
  | uploading _ _ _ failure => ∀ e ∈ failure, ∀ id, e ≠ .alreadyRunning id
  | _ => True

/-- The response that the answer to a main call brings. -/
def Stage.response? : (s : Stage) → s.call.Answer → Option Json
  | .generating _ _, .ok (response : Json) => some response
  | _, _ => none

/-- A workflow after one patch at most. -/
def Workflow.Patched (w w' : Workflow) : Prop :=
  w' = w ∨ ∃ id patch, w' = w.update id patch

theorem Workflow.Patched.isSome_node? {w w' : Workflow} (h : w.Patched w') (id : NodeId) :
    (w'.node? id).isSome = (w.node? id).isSome := by
  obtain rfl | ⟨other, patch, rfl⟩ := h
  · rfl
  · rw [node?_update, Option.isSome_map]

namespace World

variable {w : World} {t : Trigger} {request : Request}

/-- The name for the next record. -/
def nextName (w : World) : RecordId :=
  w.recordName w.named

/-- The world in which a record for a request was created and set running. -/
def opened (w : World) (t : Trigger) (request : Request) : World :=
  let created := w.store.create w.nextName w.now t.workflowId t.output request.toJson
  { w with store := created.2.tryMark .running w.now w.nextName, named := w.named + 1 }

/-- The record that an execution opens for a request. -/
def openedRecord (w : World) (t : Trigger) (request : Request) : Record :=
  { id := w.nextName, workflowId := t.workflowId, outputNodeId := t.output
    request := request.toJson, response := none, status := .running, createdAt := w.now
    startedAt := some w.now, endedAt := none, error := none, seq := w.store.nextSeq }

theorem get?_opened (w : World) (t : Trigger) (request : Request) :
    (w.opened t request).store.get? w.nextName = some (w.openedRecord t request) := by
  rw [opened, Store.get?_tryMark, Store.get?_create, Option.map_some, if_pos ⟨rfl, rfl⟩]
  rfl

theorem mark_of_ok {change : Store → Except StoreError (Record × Store)} {r : Record} {s : Store}
    (h : change w.store = .ok (r, s)) : w.mark change = .ok (r, { w with store := s }) := by
  rw [World.mark, h]
  rfl

theorem mark_of_error {change : Store → Except StoreError (Record × Store)} {e : StoreError}
    (h : change w.store = .error e) : w.mark change = .error e := by
  rw [World.mark, h]
  rfl

theorem tryMark_failed (w : World) (id : RecordId) (message : String) :
    (w.tryMark fun s => s.markFailed w.now id message) =
      { w with store := w.store.tryMark (.failed message) w.now id } := by
  have same : w.store.markFailed w.now id message = w.store.mark (.failed message) w.now id := rfl
  simp only [tryMark, World.mark, Store.tryMark, same]
  cases w.store.mark (.failed message) w.now id <;> rfl

@[simp] theorem leave_workflow (w : World) (output : NodeId) :
    (w.leave output).workflow = w.workflow := by
  unfold leave
  split <;> rfl

@[simp] theorem leave_store (w : World) (output : NodeId) : (w.leave output).store = w.store := by
  unfold leave
  split <;> rfl

@[simp] theorem leave_named (w : World) (output : NodeId) : (w.leave output).named = w.named := by
  unfold leave
  split <;> rfl

@[simp] theorem leave_settings (w : World) (output : NodeId) :
    (w.leave output).settings = w.settings := by
  unfold leave
  split <;> rfl

theorem leave_inFlight {w : World} (output : NodeId) (h : w.settings.overlapPolicy = .reject) :
    (w.leave output).inFlight = w.inFlight.filter fun id => id ≠ output := by
  rw [leave, h]

end World

namespace Trigger

/-- A failure writes to the output node and to the record, if there is one, and gives the node
back. -/
theorem fail_world (t : Trigger) (w : World) (had : Option RecordId) (e : ExecutionError) :
    (t.fail w had e).world =
      ({ w with
          workflow := w.workflow.update t.output (ExecutionError.patch e.message)
          store := (had.map (w.store.tryMark (.failed e.message) w.now)).getD w.store } :
        World).leave t.output := by
  cases had with
  | none => rfl
  | some id =>
    simp only [fail, World.tryMark_failed]
    rfl

theorem fail_named (t : Trigger) (w : World) (had : Option RecordId) (e : ExecutionError) :
    (t.fail w had e).world.named = w.named := by
  rw [fail_world, World.leave_named]

theorem record?_next (record : RecordId) (steps : List PreprocessStep) (main : MainStep) :
    (next record steps main).record? = some record := by
  cases steps <;> rfl

theorem sound_next (record : RecordId) (steps : List PreprocessStep) (main : MainStep) :
    (next record steps main).Sound := by
  cases steps <;> trivial

theorem prepare_error {t : Trigger} {w : World} {e : CompileError}
    (h : w.compile t.output = .error e) : t.prepare w = t.fail w none (.compilation e) := by
  rw [prepare, h]

/-- A record just created is idle, so it always starts to run. -/
theorem prepare_ok {t : Trigger} {w : World} {request : Request}
    (h : w.compile t.output = .ok request) :
    t.prepare w = {
      world := w.opened t request
      events := [.generationStarted w.nextName t.output request.flow request.main.method.name]
      progress := .waiting (next w.nextName request.preprocess request.main) } := by
  have found := w.store.get?_create w.nextName w.now t.workflowId t.output request.toJson
  have started : Store.mark _ .running w.now w.nextName = .ok _ := Store.mark_ok found rfl
  rw [prepare, h]
  simp only [World.createRecord]
  rw [World.mark_of_ok started]
  rfl

theorem resume_unread {t : Trigger} {w : World} {id : RecordId} {main : MainStep} {response : Json}
    {e : ServiceError} (h : Output.ofResponse response = .error e) :
    t.resume w (.generating id main) (.ok response) = t.fail w (some id) (.ofMainCall e) := by
  simp only [resume]
  rw [h]

theorem resume_read {t : Trigger} {w : World} {id : RecordId} {main : MainStep} {response : Json}
    {output : Output} (h : Output.ofResponse response = .ok output) :
    t.resume w (.generating id main) (.ok response) = t.succeed w id response output := by
  simp only [resume]
  rw [h]

/-- The store may refuse a success that the service has already delivered. -/
theorem succeed_error {t : Trigger} {w : World} {id : RecordId} {response : Json} {output : Output}
    {e : StoreError} (h : w.store.mark (.succeeded response) w.now id = .error e) :
    t.succeed w id response output =
      t.fail (w.update t.output (output.patch id)) (some id) (.store e) := by
  simp only [succeed]
  rw [World.mark_of_error (w := w.update t.output (output.patch id)) h]

theorem succeed_ok {t : Trigger} {w : World} {id : RecordId} {response : Json} {output : Output}
    {r : Record} {s : Store} (h : w.store.mark (.succeeded response) w.now id = .ok (r, s)) :
    t.succeed w id response output = {
      world := ({ w.update t.output (output.patch id) with store := s } : World).leave t.output
      events := [.generationSucceeded r.id t.output output.imageUrl]
      progress := .returned (.ok r) } := by
  simp only [succeed]
  rw [World.mark_of_ok (w := w.update t.output (output.patch id)) h]

end Trigger

/-- The ways in which a turn goes on from a world, for an execution that may have a record and that
may have heard a response. -/
inductive Turn.Shape (t : Trigger) (w : World) (had : Option RecordId) (heard : Option Json) :
    Turn → Prop where
  | waits {workflow : Workflow} {events : List Event} {stage : Stage} :
      w.workflow.Patched workflow → stage.record? = had → stage.Sound →
      (∀ e ∈ events, e.isFinal = false) →
      Shape t w had heard ⟨{ w with workflow }, events, .waiting stage⟩
  | opens {workflow : Workflow} {events : List Event} {stage : Stage} {request : Request} :
      w.workflow.Patched workflow → had = none → stage.record? = some w.nextName → stage.Sound →
      (∀ e ∈ events, e.isFinal = false) →
      Shape t w had heard ⟨({ w with workflow } : World).opened t request, events, .waiting stage⟩
  | fails {workflow : Workflow} {e : ExecutionError} (before : List Event) :
      w.workflow.Patched workflow → (∀ id, e ≠ .alreadyRunning id) →
      (∀ e ∈ before, e.isFinal = false) →
      Shape t w had heard ((t.fail { w with workflow } had e).after before)
  | succeeds {id : RecordId} {response : Json} {output : Output} {r : Record}
      (before : List Event) :
      had = some id → heard = some response → Output.ofResponse response = .ok output →
      w.store.mark (.succeeded response) w.now id =
        .ok (r, w.store.tryMark (.succeeded response) w.now id) →
      (∀ e ∈ before, e.isFinal = false) →
      Shape t w had heard
        ⟨({ w with
            workflow := w.workflow.update t.output (output.patch id)
            store := w.store.tryMark (.succeeded response) w.now id } : World).leave t.output,
          before ++ [.generationSucceeded r.id t.output output.imageUrl], .returned (.ok r)⟩

namespace Turn.Shape

variable {t : Trigger} {w : World} {had : Option RecordId} {heard : Option Json} {turn : Turn}

theorem after {events : List Event} (h : Shape t w had heard turn)
    (hf : ∀ e ∈ events, e.isFinal = false) : Shape t w had heard (turn.after events) := by
  have joined : ∀ rest : List Event, (∀ e ∈ rest, e.isFinal = false) →
      ∀ e ∈ events ++ rest, e.isFinal = false := fun rest hr e he =>
    (List.mem_append.1 he).elim (hf e) (hr e)
  cases h with
  | waits hw hs hd he => exact .waits hw hs hd (joined _ he)
  | opens hw hn hs hd he => exact .opens hw hn hs hd (joined _ he)
  | fails before hw hn he =>
    have later : Shape t w had heard _ := .fails (events ++ before) hw hn (joined _ he)
    simpa only [Turn.after, List.append_assoc] using later
  | succeeds before hd hr ho hm he =>
    have later : Shape t w had heard _ := .succeeds (events ++ before) hd hr ho hm (joined _ he)
    simpa only [Turn.after, List.append_assoc] using later

theorem of_fail {workflow : Workflow} {e : ExecutionError} (hw : w.workflow.Patched workflow)
    (hn : ∀ id, e ≠ .alreadyRunning id) :
    Shape t w had heard (t.fail { w with workflow } had e) :=
  fails [] hw hn (by simp)

theorem of_prepare {workflow : Workflow} (hw : w.workflow.Patched workflow) :
    Shape t w none heard (t.prepare { w with workflow }) := by
  cases hc : ({ w with workflow } : World).compile t.output with
  | error e =>
    rw [Trigger.prepare_error hc]
    exact of_fail hw (by simp)
  | ok request =>
    rw [Trigger.prepare_ok hc]
    exact opens hw rfl (Trigger.record?_next _ _ _) (Trigger.sound_next _ _ _)
      (by simp [Event.isFinal])

theorem of_proceed {workflow : Workflow} (hw : w.workflow.Patched workflow)
    (uploads : List PendingUpload) (total : Nat) {failure : Option ExecutionError}
    (hn : ∀ e ∈ failure, ∀ id, e ≠ .alreadyRunning id) :
    Shape t w none heard (t.proceed { w with workflow } uploads total failure) := by
  unfold Trigger.proceed
  split
  · exact waits hw rfl hn (by simp)
  · exact of_fail hw (hn _ rfl)
  · split
    · exact of_prepare hw
    · exact (of_prepare hw).after (by simp [Event.isFinal])

theorem of_succeed {id : RecordId} {response : Json} {output : Output}
    (ho : Output.ofResponse response = .ok output) :
    Shape t w (some id) (some response) (t.succeed w id response output) := by
  have patched : w.workflow.Patched (w.workflow.update t.output (output.patch id)) :=
    .inr ⟨_, _, rfl⟩
  cases hm : w.store.mark (.succeeded response) w.now id with
  | error e =>
    rw [Trigger.succeed_error hm]
    exact of_fail patched (by simp)
  | ok p =>
    obtain ⟨r, s⟩ := p
    obtain ⟨-, -, -, -, rfl⟩ := Store.mark_eq_ok hm
    rw [Trigger.succeed_ok hm]
    exact succeeds [] rfl rfl ho hm (by simp)

theorem of_resume (t : Trigger) (w : World) (stage : Stage) (answer : stage.call.Answer)
    (hs : stage.Sound) :
    Shape t w stage.record? (stage.response? answer) (t.resume w stage answer) := by
  cases stage with
  | uploading current rest total failure =>
    cases answer with
    | ok image => exact of_proceed (.inr ⟨_, _, rfl⟩) rest total hs
    | error e =>
      -- The failure that counts is the one of before, or else the one of this upload.
      refine of_proceed (.inl rfl) rest total fun f hf => ?_
      cases failure with
      | none =>
        obtain rfl : ExecutionError.upload current.nodeId e = f := Option.some.inj hf
        simp
      | some earlier => exact hs f hf
  | preprocessing record step rest main =>
    cases answer with
    | ok guideUrl =>
      exact waits (.inr ⟨_, _, rfl⟩) (Trigger.record?_next _ _ _) (Trigger.sound_next _ _ _)
        (by simp [Event.isFinal])
    | error e => exact of_fail (.inl rfl) (by simp)
  | generating record main =>
    cases answer with
    | ok response =>
      cases ho : Output.ofResponse response with
      | error e =>
        rw [Trigger.resume_unread ho]
        exact of_fail (.inl rfl) (by simp [ExecutionError.ofMainCall])
      | ok output =>
        rw [Trigger.resume_read ho]
        exact of_succeed ho
    | error e => exact of_fail (.inl rfl) (by simp [ExecutionError.ofMainCall])

end Turn.Shape

/-- Taking a node touches nothing else. -/
theorem World.enter?_eq_some {w entered : World} {output : NodeId}
    (h : w.enter? output = some entered) : ∃ inFlight, entered = { w with inFlight } := by
  unfold enter? at h
  split at h
  · cases h
    exact ⟨w.inFlight, rfl⟩
  · split at h
    · cases h
    · cases h
      exact ⟨_, rfl⟩

/-- A trigger that is let in begins with its event. -/
theorem World.trigger_shape {w entered : World} {output : NodeId}
    (h : w.enter? output = some entered) :
    Turn.Shape ⟨w.workflow.id, output⟩ entered none none (w.trigger output) := by
  rw [trigger, h]
  obtain ⟨inFlight, rfl⟩ := enter?_eq_some h
  exact (Turn.Shape.of_proceed (.inl rfl) _ _ (by simp)).after (by simp [Event.isFinal])

/-- An execution that has something to upload waits for the first of its uploads. -/
theorem World.trigger_uploading {w entered : World} {output : NodeId} {u : PendingUpload}
    {rest : List PendingUpload} (h : w.enter? output = some entered)
    (pending : pendingUploads (ancestors w.workflow.nodes w.workflow.edges output) = u :: rest) :
    w.trigger output =
      ⟨entered, [.executionStarted w.workflow.id output],
        .waiting (.uploading u rest (rest.length + 1) none)⟩ := by
  obtain ⟨inFlight, rfl⟩ := World.enter?_eq_some h
  rw [World.trigger, h]
  simp only [pending]
  rfl

theorem World.trigger_rejected {w : World} {output : NodeId} (h : w.enter? output = none) :
    w.trigger output = ⟨w, [], .returned (.error (.alreadyRunning output))⟩ := by
  rw [trigger, h]

end ImageGraph
