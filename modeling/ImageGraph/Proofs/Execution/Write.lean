import ImageGraph.Proofs.Execution.Order
import ImageGraph.Proofs.Request.Guide
import ImageGraph.Proofs.Upload.Answer

/-! What an execution writes while nobody else does. It leaves the workflow that it found with its
own writes made in order: the references of its uploads, the guides of its steps, and its end. -/

namespace ImageGraph

open Json

/-- A patch with the node that it is for. -/
structure Write where
  node : NodeId
  patch : Object

/-- The workflow with writes made one after the other. -/
def Workflow.write (w : Workflow) (writes : List Write) : Workflow :=
  writes.foldl (fun w x => w.update x.node x.patch) w

theorem Workflow.write_append (w : Workflow) (first later : List Write) :
    w.write (first ++ later) = (w.write first).write later :=
  List.foldl_append

/-- An answer that leaves the workflow and the store alone. -/
structure Interlude.Still (i : Interlude) : Prop where
  workflow : i.after.workflow = i.before.workflow
  store : i.after.store = i.before.store

/-- The uploads that an execution for an output node begins with. -/
def World.uploadsFor (w : World) (output : NodeId) : List PendingUpload :=
  pendingUploads (ancestors w.workflow.nodes w.workflow.edges output)

/-- The steps of the request for an output node; none if there is no request. -/
def World.stepsFor (w : World) (output : NodeId) : List PreprocessStep :=
  match w.compile output with
  | .ok request => request.preprocess
  | .error _ => []

/-- What the uploads that succeeded write. -/
def uploadWrites (uploads : List PendingUpload) (seen : List Interlude) : List Write :=
  (uploads.zip seen).filterMap fun p => p.2.uploaded?.map fun u => ⟨p.1.nodeId, p.1.patch u⟩

/-- What the steps write whose guides were made. -/
def guideWrites (steps : List PreprocessStep) (seen : List Interlude) : List Write :=
  (steps.zip seen).filterMap fun p =>
    p.2.guideUrl?.map fun url => ⟨p.1.nodeId, guidePatch url⟩

/-- What the end of an execution writes: an error, an image, or an image whose record is refused. -/
inductive EndWrites (output : NodeId) : List Write → Prop where
  | failed (message : String) : EndWrites output [⟨output, ExecutionError.patch message⟩]
  | succeeded (image : Output) (record : RecordId) :
      EndWrites output [⟨output, image.patch record⟩]
  | refused (image : Output) (record : RecordId) (message : String) :
      EndWrites output
        [⟨output, image.patch record⟩, ⟨output, ExecutionError.patch message⟩]

/-- An upload writes the reference that it brought, if it brought one. -/
theorem Interlude.settled_workflow (i : Interlude) (u : PendingUpload) :
    (i.settled u).workflow = i.after.workflow.write (uploadWrites [u] [i]) := by
  unfold settled uploadWrites
  cases h : i.uploaded? <;> simp [h] <;> rfl

theorem Interlude.settled_store (i : Interlude) (u : PendingUpload) :
    (i.settled u).store = i.after.store := by
  unfold settled
  split <;> rfl

theorem uploadWrites_cons (u : PendingUpload) (uploads : List PendingUpload) (i : Interlude)
    (seen : List Interlude) :
    uploadWrites (u :: uploads) (i :: seen) =
      uploadWrites [u] [i] ++ uploadWrites uploads seen := by
  rw [uploadWrites, List.zip_cons_cons, ← List.singleton_append, List.filterMap_append]
  rfl

@[simp] theorem guideWrites_unseen (steps : List PreprocessStep) : guideWrites steps [] = [] := by
  rw [guideWrites, List.zip_nil_right, List.filterMap_nil]

theorem guideWrites_cons (step : PreprocessStep) (steps : List PreprocessStep) (i : Interlude)
    (seen : List Interlude) :
    guideWrites (step :: steps) (i :: seen) =
      guideWrites [step] [i] ++ guideWrites steps seen := by
  rw [guideWrites, List.zip_cons_cons, ← List.singleton_append, List.filterMap_append]
  rfl

/-- The upload phase writes what its uploads brought and does nothing else. -/
theorem Sent.still {w : World} {uploads : List PendingUpload} {sent : List Interlude}
    (h : Sent w uploads sent) (still : ∀ i ∈ sent, i.Still) :
    (w.settled uploads sent).workflow = w.workflow.write (uploadWrites uploads sent) ∧
      (w.settled uploads sent).store = w.store := by
  induction h with
  | nil => exact ⟨rfl, rfl⟩
  | @cons w u uploads i sent _ before _ ih =>
    obtain ⟨here, still⟩ := List.forall_mem_cons.1 still
    obtain ⟨workflow, store⟩ := ih still
    subst before
    rw [World.settled_cons, workflow, store, uploadWrites_cons, Workflow.write_append,
      i.settled_workflow, i.settled_store, here.workflow, here.store]
    exact ⟨rfl, rfl⟩

namespace Course

variable {t : Trigger} {turn : Turn} {trace : Trace} {result : Except ExecutionError Record}
  {stop found : World}

theorem fail_writes (w : World) (had : Option RecordId) (e : ExecutionError)
    (course : Course t (t.fail w had e) trace result stop) :
    trace.interludes = [] ∧
      stop.workflow = w.workflow.write [⟨t.output, ExecutionError.patch e.message⟩] := by
  obtain ⟨rfl, -, rfl⟩ := course.of_returned rfl
  rw [t.fail_world, World.leave_workflow]
  exact ⟨rfl, rfl⟩

theorem main_writes {id : RecordId} {main : MainStep}
    {answer : (Stage.generating id main).call.Answer}
    (course : Course t (t.resume found (.generating id main) answer) trace result stop) :
    ∃ last, EndWrites t.output last ∧ stop.workflow = found.workflow.write last := by
  cases answer with
  | error e => exact ⟨_, .failed _, (course.fail_writes found (some id) (.ofMainCall e)).2⟩
  | ok response =>
    cases ho : Output.ofResponse response with
    | error e =>
      rw [Trigger.resume_unread ho] at course
      exact ⟨_, .failed _, (course.fail_writes _ _ _).2⟩
    | ok image =>
      rw [Trigger.resume_read ho] at course
      cases hm : found.store.mark (.succeeded response) found.now id with
      | error e =>
        rw [Trigger.succeed_error hm] at course
        exact ⟨_, .refused image id _, (course.fail_writes _ _ _).2⟩
      | ok p =>
        rw [Trigger.succeed_ok hm] at course
        obtain ⟨-, -, rfl⟩ := course.of_returned rfl
        rw [World.leave_workflow]
        exact ⟨_, .succeeded image id, rfl⟩

/-- From its record on an execution writes the guides of its steps and its end. Its calls are those
of its steps until a guide fails or the main call comes. -/
theorem run_writes {id : RecordId} {steps : List PreprocessStep} {main : MainStep}
    (course : Course t turn trace result stop)
    (hp : turn.progress = .waiting (Trigger.next id steps main))
    (still : ∀ i ∈ trace.interludes, i.Still) :
    (∀ p ∈ steps.zip trace.interludes, p.2.call = p.1.call) ∧
      ∃ last, EndWrites t.output last ∧
        stop.workflow = turn.world.workflow.write (guideWrites steps trace.interludes ++ last) := by
  induction steps generalizing main turn trace with
  | nil =>
    obtain ⟨answer, found, rest, rfl, later⟩ := course.of_waiting hp
    rw [Trace.interludes_turn] at still
    obtain ⟨here, -⟩ := List.forall_mem_cons.1 still
    obtain ⟨last, ends, written⟩ := later.main_writes
    have same : found.workflow = turn.world.workflow := here.workflow
    exact ⟨by simp, last, ends, same ▸ written⟩
  | cons step rest ih =>
    obtain ⟨answer, found, tail, rfl, later⟩ := course.of_waiting hp
    rw [Trace.interludes_turn] at still ⊢
    obtain ⟨here, later_still⟩ := List.forall_mem_cons.1 still
    have same : found.workflow = turn.world.workflow := here.workflow
    rw [List.zip_cons_cons, List.forall_mem_cons, guideWrites_cons, ← same]
    simp only [List.append_assoc, Workflow.write_append]
    cases answer with
    | error e =>
      -- The steps that are left are not called, and so they are paired with nothing.
      obtain ⟨none, written⟩ := later.fail_writes found (some id) (.preprocessing step.nodeId e)
      rw [none, guideWrites_unseen, List.zip_nil_right]
      exact ⟨⟨rfl, by simp⟩, _, .failed _, written⟩
    | ok url =>
      obtain ⟨calls, last, ends, written⟩ := ih later rfl later_still
      rw [Workflow.write_append] at written
      exact ⟨⟨rfl, calls⟩, last, ends, written⟩

theorem prepare_writes {w : World} (course : Course t (t.prepare w) trace result stop)
    (still : ∀ i ∈ trace.interludes, i.Still) :
    (∀ p ∈ (w.stepsFor t.output).zip trace.interludes, p.2.call = p.1.call) ∧
      ∃ last, EndWrites t.output last ∧ stop.workflow =
        w.workflow.write (guideWrites (w.stepsFor t.output) trace.interludes ++ last) := by
  rw [World.stepsFor]
  cases hc : w.compile t.output with
  | error cause =>
    rw [Trigger.prepare_error hc] at course
    exact ⟨by simp, _, .failed _, (course.fail_writes _ _ _).2⟩
  | ok request =>
    rw [Trigger.prepare_ok hc] at course
    exact course.run_writes rfl still

/-- Where no upload has failed an execution goes on to compile, with the same calls to come. -/
theorem of_proceed_done {w : World} {uploads : List PendingUpload}
    (course : Course t (t.proceed w [] uploads.length none) trace result stop) :
    ∃ last : Trace, trace.interludes = last.interludes ∧
      Course t (t.prepare w) last result stop := by
  rw [Trigger.proceed_done] at course
  obtain ⟨last, rfl, prepared⟩ := course.of_after
  refine ⟨last, ?_, prepared⟩
  rw [Trace.interludes_append, Trace.interludes_last, List.nil_append]

/-- After its uploads an execution writes the guides of the steps that it compiles then, and its
end. -/
theorem proceed_writes {w : World} {uploads : List PendingUpload} {failure : Option ExecutionError}
    (course : Course t (t.proceed w [] uploads.length failure) trace result stop)
    (still : ∀ i ∈ trace.interludes, i.Still) :
    (∀ p ∈ (w.stepsFor t.output).zip trace.interludes, p.2.call = p.1.call) ∧
      ∃ last, EndWrites t.output last ∧ stop.workflow =
        w.workflow.write (guideWrites (w.stepsFor t.output) trace.interludes ++ last) := by
  cases failure with
  | some e =>
    obtain ⟨none, written⟩ := course.fail_writes w none e
    rw [none, guideWrites_unseen]
    exact ⟨by simp, _, .failed _, written⟩
  | none =>
    obtain ⟨last, same, prepared⟩ := course.of_proceed_done
    rw [same] at still ⊢
    exact prepared.prepare_writes still

end Course

namespace World

variable {w entered : World} {output : NodeId}

theorem trigger_entered (h : w.enter? output = some entered) :
    w.trigger output =
      ((⟨w.workflow.id, output⟩ : Trigger).proceed entered (w.uploadsFor output)
        (w.uploadsFor output).length none).after [.executionStarted w.workflow.id output] := by
  rw [trigger, h]
  obtain ⟨inFlight, rfl⟩ := enter?_eq_some h
  rfl

/-- What is compiled after the uploads does not depend on the output node being taken. -/
theorem settled_entered (h : w.enter? output = some entered) (uploads : List PendingUpload)
    (sent : List Interlude) :
    (entered.settled uploads sent).workflow = (w.settled uploads sent).workflow ∧
      (entered.settled uploads sent).compile = (w.settled uploads sent).compile := by
  obtain ⟨inFlight, rfl⟩ := enter?_eq_some h
  unfold settled
  cases (uploads.zip sent).getLast? <;> exact ⟨rfl, rfl⟩

/-- The world after the uploads of an execution, by the calls that are seen of it. -/
def uploaded (w : World) (output : NodeId) (seen : List Interlude) : World :=
  w.settled (w.uploadsFor output) (seen.take (w.uploadsFor output).length)

/-- The calls of an execution that are no uploads. -/
def afterUploads (w : World) (output : NodeId) (seen : List Interlude) : List Interlude :=
  seen.drop (w.uploadsFor output).length

end World

namespace Course

variable {output : NodeId} {w entered stop : World} {trace : Trace}
  {result : Except ExecutionError Record}
  (course : Course ⟨w.workflow.id, output⟩ (w.trigger output) trace result stop)
  (h : w.enter? output = some entered)
include course h

/-- An execution that is let in makes its uploads and goes on from the world that they left. -/
theorem uploads :
    let sent := trace.interludes.take (w.uploadsFor output).length
    Sent entered (w.uploadsFor output) sent ∧
      ∃ (rest : Trace) (failure : Option ExecutionError),
        rest.interludes = w.afterUploads output trace.interludes ∧
        (failure = none ↔ ∀ i ∈ sent, i.Succeeded) ∧
        Course ⟨w.workflow.id, output⟩
          (Trigger.proceed ⟨w.workflow.id, output⟩ (entered.settled (w.uploadsFor output) sent) []
            (w.uploadsFor output).length failure)
          rest result stop := by
  rw [World.trigger_entered h] at course
  obtain ⟨tail, started, begun⟩ := course.of_after
  obtain ⟨sent, rest, failure, rfl, linked, hf, -, later⟩ := begun.upload_order
  have split : trace.interludes = sent ++ rest.interludes := by
    rw [started, Trace.interludes_append, Trace.interludes_append, Trace.interludes_last,
      Trace.interludes_calls, List.nil_append]
  simp only [World.afterUploads, split, ← linked.length, List.take_left, List.drop_left]
  rw [← linked.length] at later
  exact ⟨linked, rest, failure, rfl, by simpa using hf, later⟩

/-- An execution that is let in writes its references, and then its guides and its end. -/
theorem writes (still : ∀ i ∈ trace.interludes, i.Still) :
    let seen := trace.interludes
    let steps := (w.uploaded output seen).stepsFor output
    (w.uploaded output seen).workflow = w.workflow.write
        (uploadWrites (w.uploadsFor output) (seen.take (w.uploadsFor output).length)) ∧
      (∀ p ∈ steps.zip (w.afterUploads output seen), p.2.call = p.1.call) ∧
      ∃ last, EndWrites output last ∧ stop.workflow = (w.uploaded output seen).workflow.write
        (guideWrites steps (w.afterUploads output seen) ++ last) := by
  intro seen
  obtain ⟨linked, rest, failure, tail, -, later⟩ := course.uploads h
  obtain ⟨workflow, compile⟩ := World.settled_entered h (w.uploadsFor output)
    (seen.take (w.uploadsFor output).length)
  have kept : entered.workflow = w.workflow := by
    obtain ⟨inFlight, rfl⟩ := World.enter?_eq_some h
    rfl
  have uploaded := (linked.still fun i hi => still i (List.mem_of_mem_take hi)).1
  have written := later.proceed_writes fun i hi => still i (List.mem_of_mem_drop (tail ▸ hi))
  rw [workflow, kept] at uploaded
  rw [workflow, World.stepsFor, compile, tail] at written
  exact ⟨uploaded, written⟩

end Course

namespace Surroundings

variable {σ : Type} {e : Surroundings σ}

/-- Surroundings that leave workflow and records alone while they work on a call. -/
def Still (e : Surroundings σ) : Prop :=
  ∀ c w s, Interlude.Still ⟨c, w, (e.answer c w s).1, (e.answer c w s).2.1⟩

theorem Still.of_mem (still : e.Still) (output : NodeId) (w : World) (s : σ) :
    ∀ i ∈ (e.trace output w s).interludes, i.Still :=
  fun _ hi => of_mem_interludes still hi

end Surroundings

end ImageGraph
