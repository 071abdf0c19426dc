import ImageGraph.Proofs.Execution.Trace

/-! How an execution reports its end. Whatever the service answers and whatever becomes of the world
meanwhile, the result is told once each by the last event, by the output node and by the record. -/

namespace ImageGraph

open Json

/-- A mark as failed is refused unless the record is idle or running. -/
theorem Status.mayBecome_failed_iff (s : Status) :
    s.mayBecome .failed = true ↔ s = .idle ∨ s = .running := by
  cases s <;> decide

namespace ExecutionError

/-- What an error is about: the node, if there is one, and what the cause says of itself. -/
def subjects : ExecutionError → List String
  | compilation cause => [cause.message]
  | upload node cause | preprocessing node cause => [node, cause.message]
  | generation reason => [reason]
  | alreadyRunning output => [output]
  | store cause => [cause.message]

/-- A message holds all that the error is about. -/
theorem message_infix (e : ExecutionError) :
    ∀ text ∈ e.subjects, ∃ before after, e.message = before ++ text ++ after := by
  have last (before text : String) : ∃ start rest, before ++ text = start ++ text ++ rest :=
    ⟨before, "", String.append_empty.symm⟩
  have node (before text middle after : String) :
      ∃ start rest, before ++ text ++ middle ++ after = start ++ text ++ rest :=
    ⟨before, middle ++ after, String.append_assoc⟩
  cases e with
  | compilation cause =>
    exact List.forall_mem_singleton.2 (last "Compilation error: " cause.message)
  | upload id cause =>
    exact List.forall_mem_cons.2 ⟨node "Upload failed for node '" id "': " cause.message,
      List.forall_mem_singleton.2
        (last ("Upload failed for node '" ++ id ++ "': ") cause.message)⟩
  | preprocessing id cause =>
    exact List.forall_mem_cons.2 ⟨node "Preprocessing failed for node '" id "': " cause.message,
      List.forall_mem_singleton.2
        (last ("Preprocessing failed for node '" ++ id ++ "': ") cause.message)⟩
  | generation reason => exact List.forall_mem_singleton.2 (last "Generation failed: " reason)
  | alreadyRunning output =>
    exact List.forall_mem_singleton.2
      ⟨"A generation for output node '", "' is already running", rfl⟩
  | store cause => exact List.forall_mem_singleton.2 (last "Store error: " cause.message)

/-- The first letter of a message is that of the phase that failed. -/
theorem head?_message (e : ExecutionError) : e.message.toList.head? = some (match e.kind with
    | .compilation => 'C'
    | .upload => 'U'
    | .preprocessing => 'P'
    | .generation => 'G'
    | .conflict => 'A'
    | .internal => 'S') := by
  have head {c : Char} (start text : String) (h : start.toList.head? = some c) :
      (start ++ text).toList.head? = some c := by
    rw [String.toList_append, List.head?_append, h]
    rfl
  cases e with
  | compilation cause => exact head "Compilation error: " cause.message rfl
  | upload id cause =>
    exact head _ cause.message (head _ "': " (head "Upload failed for node '" id rfl))
  | preprocessing id cause =>
    exact head _ cause.message (head _ "': " (head "Preprocessing failed for node '" id rfl))
  | generation reason => exact head "Generation failed: " reason rfl
  | alreadyRunning output =>
    exact head _ "' is already running" (head "A generation for output node '" output rfl)
  | store cause => exact head "Store error: " cause.message rfl

/-- The kind of an error can be told from its message. -/
theorem kind_eq_of_message_eq {e e' : ExecutionError} (same : e.message = e'.message) :
    e.kind = e'.kind := by
  have head := e.head?_message
  rw [same, e'.head?_message] at head
  revert head
  cases e.kind <;> cases e'.kind <;> decide

end ExecutionError

/-- The report of a failure. The failed execution had a record or none; the world is the one that it
found at last and the one that it left in the end. -/
structure FailureReport (output : NodeId) (record : Option RecordId) (found stop : World)
    (events : List Event) (e : ExecutionError) : Prop where
  event : ∃ before, (∀ ev ∈ before, ev.isFinal = false) ∧
    events = before ++ [.generationFailed record output e.message]
  node_kept : (stop.workflow.node? output).isSome = (found.workflow.node? output).isSome
  node : ∀ n, stop.workflow.node? output = some n → n.attribute? "error" = some (.str e.message)
  marked : ∀ id ∈ record, stop.store.get? id = (found.store.get? id).map fun r =>
    if r.status = .idle ∨ r.status = .running then
      { r with status := .failed, error := some e.message, endedAt := some found.now }
    else r
  ended : ∀ id ∈ record, ∀ r, stop.store.get? id = some r → r.status ≠ .idle ∧ r.status ≠ .running

/-- The text on the output node holds all that the error is about. -/
theorem FailureReport.node_tells {output : NodeId} {record : Option RecordId} {found stop : World}
    {events : List Event} {e : ExecutionError} (h : FailureReport output record found stop events e)
    {n : Node} (there : stop.workflow.node? output = some n) :
    ∃ message, n.attribute? "error" = some (.str message) ∧
      ∀ text ∈ e.subjects, ∃ before after, message = before ++ text ++ after :=
  ⟨e.message, h.node n there, e.message_infix⟩

/-- The report of a success, for the response to the main call and what it was read as. -/
structure SuccessReport (output : NodeId) (response : Json) (image : Output) (found stop : World)
    (events : List Event) (r : Record) : Prop where
  read : Output.ofResponse response = .ok image
  event : ∃ before, (∀ ev ∈ before, ev.isFinal = false) ∧
    events = before ++ [.generationSucceeded r.id output image.imageUrl]
  node_kept : (stop.workflow.node? output).isSome = (found.workflow.node? output).isSome
  node : ∀ n, stop.workflow.node? output = some n →
    n.attribute? "imageUrl" = some (.str image.imageUrl) ∧
      n.attribute? "generationId" = some (.str r.id) ∧ n.attribute? "error" = none
  stored : stop.store.get? r.id = some r
  status : r.status = .succeeded
  response : r.response = some response

/-- How an execution ends that had a record, or none, and had heard a response, or none, when it
went on from a world. A failure names the one record there was; a success has one for sure. -/
inductive Ending (output : NodeId) (had : Option RecordId) (heard : Option Json) (w : World)
    (trace : Trace) : Except ExecutionError Record → World → Prop where
  | failed {stop : World} {e : ExecutionError} (record : Option RecordId) :
      (∀ id, e ≠ .alreadyRunning id) →
      had.toList ++ createdBetween w stop trace.interludes = record.toList →
      FailureReport output record (trace.lastWorld w) stop trace.events e →
      Ending output had heard w trace (.error e) stop
  | succeeded {stop : World} {r : Record} (response : Json) (image : Output) :
      had.toList ++ createdBetween w stop trace.interludes = [r.id] →
      trace.lastResponse heard = some response →
      SuccessReport output response image (trace.lastWorld w) stop trace.events r →
      Ending output had heard w trace (.ok r) stop

theorem FailureReport.of_fail {t : Trigger} {w : World} {had : Option RecordId}
    {e : ExecutionError} {workflow : Workflow} {before : List Event}
    (hw : w.workflow.Patched workflow) (hf : ∀ ev ∈ before, ev.isFinal = false) :
    FailureReport t.output had w (t.fail { w with workflow } had e).world
      (before ++ [.generationFailed had t.output e.message]) e := by
  have node : (t.fail { w with workflow } had e).world.workflow =
      workflow.update t.output (ExecutionError.patch e.message) := by
    rw [t.fail_world, World.leave_workflow]
  have marked : ∀ id ∈ had, (t.fail { w with workflow } had e).world.store.get? id =
      (w.store.get? id).map fun r =>
        if r.status = .idle ∨ r.status = .running then
          { r with status := .failed, error := some e.message, endedAt := some w.now }
        else r := by
    rintro id ⟨⟩
    rw [t.fail_world, World.leave_store, Option.map_some, Option.getD_some, Store.get?_tryMark]
    simp only [true_and, Mark.status, Status.mayBecome_failed_iff]
    rfl
  constructor
  · exact ⟨before, hf, rfl⟩
  · rw [node, Workflow.node?_update, Option.isSome_map, hw.isSome_node?]
  · intro n hn
    rw [node, Workflow.node?_update] at hn
    obtain ⟨old, -, rfl⟩ := Option.map_eq_some_iff.1 hn
    rw [if_pos rfl, Node.attribute?_merge]
    rfl
  · exact marked
  · intro id hid r hr
    rw [marked id hid] at hr
    obtain ⟨old, -, rfl⟩ := Option.map_eq_some_iff.1 hr
    split
    · exact ⟨by simp, by simp⟩
    · rename_i h
      exact not_or.1 h

/-- The attributes that a success writes, under keys of their own. -/
theorem Output.patch_apply (o : Output) (id : RecordId) (n : Node) :
    (n.merge (o.patch id)).attribute? "imageUrl" = some (.str o.imageUrl) ∧
      (n.merge (o.patch id)).attribute? "generationId" = some (.str id) ∧
      (n.merge (o.patch id)).attribute? "error" = none := by
  simp [Node.attribute?_merge, Output.patch, patchedValue, Json.isNull]

theorem SuccessReport.of_succeed {w : World} {output : NodeId} {id : RecordId} {response : Json}
    {image : Output} {r : Record} {before : List Event}
    (hr : Output.ofResponse response = .ok image)
    (hm : w.store.mark (.succeeded response) w.now id =
      .ok (r, w.store.tryMark (.succeeded response) w.now id))
    (hf : ∀ ev ∈ before, ev.isFinal = false) :
    SuccessReport output response image w
      (({ w with
          workflow := w.workflow.update output (image.patch id)
          store := w.store.tryMark (.succeeded response) w.now id } : World).leave output)
      (before ++ [.generationSucceeded r.id output image.imageUrl]) r := by
  obtain ⟨q, hq, hb, rfl, -⟩ := Store.mark_eq_ok hm
  have same : ((Mark.succeeded response).apply w.now q).id = id := by
    rw [Mark.apply_id, Store.get?_id hq]
  constructor
  · exact hr
  · exact ⟨before, hf, rfl⟩
  · rw [World.leave_workflow, Workflow.node?_update, Option.isSome_map]
  · intro n hn
    rw [World.leave_workflow, Workflow.node?_update] at hn
    obtain ⟨old, -, rfl⟩ := Option.map_eq_some_iff.1 hn
    rw [if_pos rfl, same]
    exact image.patch_apply id old
  · rw [World.leave_store, same, Store.get?_tryMark, hq, Option.map_some, if_pos ⟨rfl, hb⟩]
  · rfl
  · rfl

/-- Events that come earlier and are not final do not take the place of the final one. -/
private theorem last_event_after {events rest : List Event} {last : Event}
    (hf : ∀ ev ∈ events, ev.isFinal = false)
    (h : ∃ before, (∀ ev ∈ before, ev.isFinal = false) ∧ rest = before ++ [last]) :
    ∃ before, (∀ ev ∈ before, ev.isFinal = false) ∧ events ++ rest = before ++ [last] := by
  obtain ⟨before, hb, rfl⟩ := h
  refine ⟨events ++ before, fun ev he => ?_, by rw [List.append_assoc]⟩
  exact (List.mem_append.1 he).elim (hf ev) (hb ev)

/-- The end of what comes after a call is the end of the whole. -/
theorem Ending.of_rest {output : NodeId} {had now : Option RecordId} {heard : Option Json}
    {w stop : World} {events : List Event} {i : Interlude} {rest : Trace}
    {result : Except ExecutionError Record}
    (h : Ending output now i.response? i.after rest result stop)
    (hf : ∀ ev ∈ events, ev.isFinal = false)
    (hc : had.toList ++ w.namesUntil i.before = now.toList) :
    Ending output had heard w (events.map .event ++ .call i :: rest) result stop := by
  have created : had.toList ++ createdBetween w stop
      (Trace.interludes (events.map .event ++ .call i :: rest)) =
        now.toList ++ createdBetween i.after stop rest.interludes := by
    rw [Trace.interludes_turn, createdBetween, ← List.append_assoc, hc]
  cases h with
  | failed record hn hr report =>
    refine .failed record hn (created.trans hr) ?_
    rw [Trace.events_turn, Trace.lastWorld_turn]
    exact { report with event := last_event_after hf report.event }
  | succeeded response image hr hl report =>
    have heard' := (Trace.lastResponse_turn events i rest heard).trans hl
    refine .succeeded response image (created.trans hr) heard' ?_
    rw [Trace.events_turn, Trace.lastWorld_turn]
    exact { report with event := last_event_after hf report.event }

/-- A response heard counts alike for the stage that waited for it and for those who look on. -/
theorem Stage.response?_eq (stage : Stage) (answer : stage.call.Answer) (before after : World) :
    Interlude.response? ⟨stage.call, before, answer, after⟩ = stage.response? answer := by
  cases stage <;> cases answer <;> rfl

/-- What holds at the end of every course that began with a possible turn. -/
theorem Course.ending {t : Trigger} {turn : Turn} {trace : Trace}
    {result : Except ExecutionError Record} {stop w : World} {had : Option RecordId}
    {heard : Option Json} (course : Course t turn trace result stop)
    (shape : Turn.Shape t w had heard turn) : Ending t.output had heard w trace result stop := by
  induction course generalizing w had heard with
  | ends hp =>
    cases shape with
    | waits => cases hp
    | opens => cases hp
    | fails before hw hn hf =>
      -- The turn patches the graph once before it fails, if at all, and that kept the nodes.
      obtain rfl := Progress.returned.inj hp
      refine .failed had hn ?_ ?_
      · rw [Trace.interludes_last, createdBetween, World.namesUntil_eq_nil, List.append_nil]
        exact t.fail_named _ _ _
      · rw [Trace.events_last, Trace.lastWorld, Trace.interludes_last]
        exact .of_fail hw hf
    | @succeeds id response image r before hd hr ho hm hf =>
      obtain rfl := Progress.returned.inj hp
      obtain ⟨q, hq, -, rfl, -⟩ := Store.mark_eq_ok hm
      refine .succeeded response image ?_ ?_ ?_
      · rw [Trace.interludes_last, createdBetween, World.namesUntil_eq_nil, List.append_nil, hd,
          Mark.apply_id, Store.get?_id hq]
        · rfl
        · exact World.leave_named _ _
      · rw [Trace.lastResponse, Trace.interludes_last]
        exact hr
      · rw [Trace.events_last, Trace.lastWorld, Trace.interludes_last]
        exact .of_succeed ho hm hf
  | @goesOn turn stage answer found rest result stop hp _ ih =>
    -- Whatever was found after the call is where the rest starts from.
    have later := fun hd => ih (Turn.Shape.of_resume t found stage answer hd)
    rw [← stage.response?_eq answer turn.world found] at later
    cases shape with
    | fails => cases hp
    | succeeds => cases hp
    | waits hw hs hd hf =>
      obtain rfl := Progress.waiting.inj hp
      refine .of_rest (later hd) hf ?_
      rw [World.namesUntil_eq_nil, List.append_nil, hs]
      rfl
    | opens hw hn hs hd hf =>
      obtain rfl := Progress.waiting.inj hp
      refine .of_rest (later hd) hf ?_
      rw [World.namesUntil_succ rfl, hn, hs]
      rfl

namespace Surroundings

variable {σ : Type}

/-- Every execution is either rejected, and then it does nothing, or reports its end in full. -/
theorem execute_reports (e : Surroundings σ) (output : NodeId) (w : World) (s : σ) :
    match w.enter? output with
    | none =>
      e.trace output w s = [] ∧
        e.execute output w s = (.error (.alreadyRunning output), w, s)
    | some entered =>
      Ending output none none entered (e.trace output w s) (e.execute output w s).1
        (e.execute output w s).2.1 := by
  have course := (e.execute_observed output w s).2
  cases he : w.enter? output with
  | none =>
    simp only [trace, execute, World.trigger_rejected he]
    exact ⟨rfl, rfl⟩
  | some entered => exact course.ending (World.trigger_shape he)

end Surroundings

end ImageGraph
