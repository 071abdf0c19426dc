import ImageGraph.Proofs.Execution.Usable
import ImageGraph.Proofs.Upload.Settling

/-! Executions whose uploads are under way at the same time. Whatever the order in which these are
sent and settled, such an execution takes the course of one that makes them one after the other, so
what is known of courses is known of it. -/

namespace ImageGraph

/-! ### Uploads one after the other -/

/-- The calls of uploads, each in the world that the one before has left, with nothing but their
references changing. -/
def quietCalls (answers : Answers) (w : World) : List PendingUpload → List Interlude
  | [] => []
  | p :: rest =>
    ⟨p.call, w, answers p, w⟩ ::
      quietCalls answers { w with workflow := w.workflow.answered answers p } rest

section

variable {answers : Answers} {w : World} {uploads : List PendingUpload}

theorem settled_answered (answers : Answers) (w : World) (p : PendingUpload) :
    Interlude.settled ⟨p.call, w, answers p, w⟩ p =
      { w with workflow := w.workflow.answered answers p } := by
  rw [Workflow.answered]
  cases answers p <;> rfl

variable (answers w uploads) in
theorem length_quietCalls : (quietCalls answers w uploads).length = uploads.length := by
  induction uploads generalizing w with
  | nil => rfl
  | cons p rest ih => rw [quietCalls, List.length_cons, List.length_cons, ih]

theorem still_of_mem_quietCalls : ∀ i ∈ quietCalls answers w uploads, i.Still := by
  induction uploads generalizing w with
  | nil => exact fun _ hi => (List.not_mem_nil hi).elim
  | cons p rest ih => exact List.forall_mem_cons.2 ⟨⟨rfl, rfl⟩, ih⟩

theorem delivers_of_mem_quietCalls
    (h : ∀ p ∈ uploads, ∃ u, answers p = .ok u ∧ Text.allBlank u.id = false) :
    ∀ i ∈ quietCalls answers w uploads, i.Delivers := by
  induction uploads generalizing w with
  | nil => exact fun _ hi => (List.not_mem_nil hi).elim
  | cons p rest ih =>
    obtain ⟨⟨u, answered, filled⟩, later⟩ := List.forall_mem_cons.1 h
    refine List.forall_mem_cons.2 ⟨⟨u, ?_, filled⟩, ih later⟩
    rw [answered]
    rfl

theorem settled_quietCalls :
    w.settled uploads (quietCalls answers w uploads) =
      { w with workflow := w.workflow.answeredAll answers uploads } := by
  induction uploads generalizing w with
  | nil => rfl
  | cons p rest ih =>
    rw [quietCalls, World.settled_cons, settled_answered, ih]
    rfl

end

namespace Course

variable {t : Trigger} {turn : Turn} {trace : Trace} {result : Except ExecutionError Record}
  {stop : World}

theorem after (course : Course t turn trace result stop) (events : List Event) :
    Course t (turn.after events) (events.map .event ++ trace) result stop := by
  cases course with
  | ends hp =>
    rw [← List.map_append]
    exact .ends hp
  | goesOn hp later =>
    rw [← List.append_assoc, ← List.map_append]
    exact .goesOn hp later

/-- An execution that goes on from the answers to its uploads has made them one after the other. -/
theorem of_answered {answers : Answers} {w : World} {uploads : List PendingUpload} {total : Nat}
    (failure : Option ExecutionError)
    (course : Course t
      (t.proceed { w with workflow := w.workflow.answeredAll answers uploads } [] total
        (failure <|> uploads.findSome? fun p => Uploads.failure? (p, .settled (answers p))))
      trace result stop) :
    Course t (t.proceed w uploads total failure)
      ((quietCalls answers w uploads).map .call ++ trace) result stop := by
  induction uploads generalizing w failure with
  | nil => simpa [quietCalls, Workflow.answeredAll] using course
  | cons p rest ih =>
    -- The first failure is the one so far, or that of this upload, or one of the rest.
    have first : (failure <|> (p :: rest).findSome? fun p =>
          Uploads.failure? (p, .settled (answers p))) =
        ((failure <|> Uploads.failure? (p, .settled (answers p))) <|>
          rest.findSome? fun p => Uploads.failure? (p, .settled (answers p))) := by
      rw [List.findSome?_cons]
      cases failure with
      | some e => rfl
      | none => cases Uploads.failure? (p, .settled (answers p)) <;> rfl
    rw [first] at course
    have later : Course t (t.resume w (.uploading p rest total failure) (answers p))
        ((quietCalls answers { w with workflow := w.workflow.answered answers p } rest).map .call ++
          trace) result stop := by
      rw [t.resume_answered]
      exact ih _ course
    exact .goesOn rfl later

end Course

/-! ### Uploads at the same time -/

/-- An execution that is let in, with its uploads under way at the same time: until all have settled
nothing but they changes the world, and then it goes on with what they came to. -/
structure Together (w entered : World) (output : NodeId) (answers : Answers) (last : Uploads)
    (trace : Trace) (result : Except ExecutionError Record) (stop : World) : Prop where
  enters : w.enter? output = some entered
  run : Uploads.Run answers
    (.start w.workflow (ancestors w.workflow.nodes w.workflow.edges output)) last
  finished : last.Finished
  rest : Course ⟨w.workflow.id, output⟩
    (Trigger.proceed ⟨w.workflow.id, output⟩ { entered with workflow := last.workflow } []
      (w.uploadsFor output).length last.firstFailure?)
    trace result stop

/-- What is seen of an execution that makes its uploads one after the other, with what comes after
them. -/
def oneByOne (w entered : World) (output : NodeId) (answers : Answers) (rest : Trace) : Trace :=
  .event (.executionStarted w.workflow.id output) ::
    ((quietCalls answers entered (w.uploadsFor output)).map .call ++ rest)

@[simp] theorem interludes_oneByOne (w entered : World) (output : NodeId) (answers : Answers)
    (rest : Trace) :
    (oneByOne w entered output answers rest).interludes =
      quietCalls answers entered (w.uploadsFor output) ++ rest.interludes := by
  rw [oneByOne, Trace.interludes, List.filterMap_cons_none rfl]
  exact (Trace.interludes_append _ _).trans (congrArg (· ++ _) (Trace.interludes_calls _))

theorem take_oneByOne (w entered : World) (output : NodeId) (answers : Answers) (rest : Trace) :
    (oneByOne w entered output answers rest).interludes.take (w.uploadsFor output).length =
      quietCalls answers entered (w.uploadsFor output) := by
  rw [interludes_oneByOne, ← length_quietCalls answers entered, List.take_left]

namespace Together

variable {w entered stop : World} {output : NodeId} {answers : Answers} {last : Uploads}
  {trace : Trace} {result : Except ExecutionError Record}
  (h : Together w entered output answers last trace result stop)
include h

theorem workflow_eq : last.workflow = w.workflow.answeredAll answers (w.uploadsFor output) :=
  ((Uploads.Consistent.of_start answers _ _).run h.run).workflow_of_finished h.finished
    (nodup_search w.workflow.nodes w.workflow.edges [] [output])

/-- The execution takes the course of one whose uploads are made one after the other. -/
theorem course :
    Course ⟨w.workflow.id, output⟩ (w.trigger output) (oneByOne w entered output answers trace)
      result stop := by
  have settled := ((Uploads.Consistent.of_start answers _ _).run h.run).slots_of_finished h.finished
  have rest := h.rest
  rw [Uploads.firstFailure?_eq settled, h.workflow_eq] at rest
  rw [World.trigger_entered h.enters]
  obtain ⟨inFlight, rfl⟩ := World.enter?_eq_some h.enters
  exact (Course.of_answered none rest).after [_]

/-- In this course the uploads leave the workflow that they come to at the same time. -/
theorem uploaded_workflow :
    (w.uploaded output (oneByOne w entered output answers trace).interludes).workflow =
      last.workflow := by
  rw [World.uploaded, take_oneByOne, ← (World.settled_entered h.enters _ _).1, settled_quietCalls,
    h.workflow_eq]
  obtain ⟨inFlight, rfl⟩ := World.enter?_eq_some h.enters
  rfl

section

variable (still : ∀ i ∈ trace.interludes, i.Still)
include still

omit h in
variable (w entered output answers) in
theorem still_oneByOne : ∀ i ∈ (oneByOne w entered output answers trace).interludes, i.Still := by
  rw [interludes_oneByOne]
  exact List.forall_mem_append.2 ⟨still_of_mem_quietCalls, still⟩

/-- If the execution is left alone, it changes no node but its output and the ancestors of that, and
of these no attributes but those that it may write. -/
theorem frame :
    let seen := (oneByOne w entered output answers trace).interludes
    let found := ancestors w.workflow.nodes w.workflow.edges output
    w.workflow.Written (MayWrite w output seen) stop.workflow ∧
      List.Forall₂ (fun n m => n.id ≠ output → n.id ∉ found.map Node.id → n = m)
        w.workflow.nodes stop.workflow.nodes ∧
      ∃ own : Option RecordId, createdBetween w stop seen = own.toList ∧
        ∀ id ∉ own, stop.store.get? id = w.store.get? id :=
  h.course.frame (still_oneByOne w entered output answers still)

/-- Where all uploads succeed and bring identifiers, nothing is left to upload in the workflow that
they come to, and the execution is not refused for want of a base image that a candidate holds as
data. -/
theorem usable (unique : (w.workflow.nodes.map Node.id).Nodup)
    (delivered : ∀ p ∈ w.uploadsFor output,
      ∃ u, answers p = .ok u ∧ Text.allBlank u.id = false) :
    (∀ n ∈ ancestors last.workflow.nodes last.workflow.edges output, n.Usable) ∧
      ((∃ n, Candidate (ancestors w.workflow.nodes w.workflow.edges output) output n ∧
          (n.text? "imageData").isSome) →
        ∀ cause, result = .error (.compilation cause) →
          (∀ flow, cause ≠ .missingBaseImage flow) ∧
            ∀ subtype, cause ≠ .missingImages subtype) := by
  have course := h.course
  have calm := still_oneByOne w entered output answers still
  have sent : ∀ i ∈ (oneByOne w entered output answers trace).interludes.take
      (w.uploadsFor output).length, i.Delivers := by
    rw [take_oneByOne]
    exact delivers_of_mem_quietCalls delivered
  constructor
  · rw [← h.uploaded_workflow]
    exact course.usable h.enters sent calm unique
  · rintro ⟨n, candidate, data⟩ cause rfl
    exact course.base_offered h.enters sent calm unique candidate data

end

end Together

end ImageGraph
