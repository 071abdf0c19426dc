import ImageGraph.Proofs.Execution.Report

/-! The order of what an execution does. Its calls are the uploads, then guides, then the main
call. Its events follow the same phases, and no phase begins before the one in front of it has
succeeded. -/

namespace ImageGraph

def PendingUpload.call (u : PendingUpload) : ServiceCall :=
  .upload u.data

def PreprocessStep.call (step : PreprocessStep) : ServiceCall :=
  .preprocess step.sourceImage step.preprocessor

namespace Interlude

def Succeeded (i : Interlude) : Prop :=
  i.answer.isOk = true

/-- The reference that an upload brought. -/
def uploaded? : Interlude → Option UploadedImage
  | ⟨.upload _, _, .ok (image : UploadedImage), _⟩ => some image
  | _ => none

/-- The URL of the guide that was made. -/
def guideUrl? : Interlude → Option String
  | ⟨.preprocess _ _, _, .ok (url : String), _⟩ => some url
  | _ => none

theorem succeeded_of_uploaded? {i : Interlude} {image : UploadedImage}
    (h : i.uploaded? = some image) : i.Succeeded := by
  unfold uploaded? at h
  split at h
  · rfl
  · cases h

theorem succeeded_of_guideUrl? {i : Interlude} {url : String} (h : i.guideUrl? = some url) :
    i.Succeeded := by
  unfold guideUrl? at h
  split at h
  · rfl
  · cases h

/-- The world after an upload, with the reference written to its node if it brought one. -/
def settled (i : Interlude) (u : PendingUpload) : World :=
  match i.uploaded? with
  | some image => { i.after with workflow := i.after.workflow.settle u image }
  | none => i.after

end Interlude

/-- The world after the last of some uploads, or else the one at the start. -/
def World.settled (w : World) (uploads : List PendingUpload) (sent : List Interlude) : World :=
  ((uploads.zip sent).getLast?.map fun p => p.2.settled p.1).getD w

theorem World.settled_cons (w : World) (u : PendingUpload) (uploads : List PendingUpload)
    (i : Interlude) (sent : List Interlude) :
    w.settled (u :: uploads) (i :: sent) = (i.settled u).settled uploads sent := by
  rw [settled, settled, List.zip_cons_cons, List.getLast?_cons]
  cases (uploads.zip sent).getLast? <;> rfl

/-- Uploads sent one after the other, each in the world that the one before has left. -/
inductive Sent : World → List PendingUpload → List Interlude → Prop where
  | nil (w : World) : Sent w [] []
  | cons {w : World} {u : PendingUpload} {uploads : List PendingUpload} {i : Interlude}
      {sent : List Interlude} :
      i.call = u.call → i.before = w → Sent (i.settled u) uploads sent →
      Sent w (u :: uploads) (i :: sent)

theorem Sent.calls {w : World} {uploads : List PendingUpload} {sent : List Interlude}
    (h : Sent w uploads sent) : sent.map Interlude.call = uploads.map PendingUpload.call := by
  induction h with
  | nil => rfl
  | cons call _ _ ih => rw [List.map_cons, List.map_cons, call, ih]

theorem Sent.length {w : World} {uploads : List PendingUpload} {sent : List Interlude}
    (h : Sent w uploads sent) : sent.length = uploads.length := by
  have calls := congrArg List.length h.calls
  rwa [List.length_map, List.length_map] at calls

/-- An upload creates nothing, and neither does writing its reference down. -/
private theorem createdBetween_settled {w : World} {i : Interlude} (u : PendingUpload)
    (hb : i.before.named = w.named) (stop : World) (later : List Interlude) :
    createdBetween w stop (i :: later) = createdBetween (i.settled u) stop later := by
  rw [createdBetween, World.namesUntil_eq_nil hb, List.nil_append, Interlude.settled]
  cases later <;> split <;> rfl

/-- One event for each upload phase that had anything to do. -/
def uploadEvents (output : NodeId) (uploads : List PendingUpload) : List Event :=
  if uploads = [] then [] else [.uploadsCompleted output (.ofNat uploads.length)]

theorem Trigger.proceed_done (t : Trigger) (w : World) (uploads : List PendingUpload) :
    t.proceed w [] uploads.length none =
      (t.prepare w).after (uploadEvents t.output uploads) := by
  cases uploads <;> rfl

/-- After an upload the next one follows, whatever it brought. That it failed is kept for later. -/
theorem Trigger.resume_uploading (t : Trigger) (w found : World) (u : PendingUpload)
    (rest : List PendingUpload) (total : Nat) (failure : Option ExecutionError)
    (answer : u.call.Answer) :
    ∃ failure',
      t.resume found (.uploading u rest total failure) answer =
        t.proceed (Interlude.settled ⟨u.call, w, answer, found⟩ u) rest total failure' ∧
      (failure' = none ↔ failure = none ∧ Interlude.Succeeded ⟨u.call, w, answer, found⟩) := by
  cases answer with
  | error e =>
    have lost : ¬ Interlude.Succeeded ⟨u.call, w, .error e, found⟩ := Bool.false_ne_true
    exact ⟨failure <|> some (.upload u.nodeId e), rfl, by simp [lost]⟩
  | ok image =>
    have kept : Interlude.Succeeded ⟨u.call, w, .ok image, found⟩ := rfl
    exact ⟨failure, rfl, by simp [kept]⟩

/-- One event for each guide that was made. -/
def guideEvents (id : RecordId) (steps : List PreprocessStep) (guides : List Interlude) :
    List Event :=
  (steps.zip guides).filterMap fun p =>
    p.2.guideUrl?.map fun url => .preprocessCompleted id p.1.nodeId url

/-- The main call with an entry for each guide that was made. -/
def MainStep.guided (main : MainStep) (steps : List PreprocessStep) (guides : List Interlude) :
    MainStep :=
  (steps.zip guides).foldl
    (fun m p => (p.2.guideUrl?.map fun url => m.addControl (p.1.entry url)).getD m) main

/-- The calls and events of an execution once it has a record: the guides of its steps, and the main
call when all of them are made. -/
inductive RunOrder (output : NodeId) (id : RecordId) (steps : List PreprocessStep)
    (main : MainStep) : List Interlude → List Interlude → List Event → Prop where
  | halted (made : List Interlude) {last : Interlude} {message : String}
      (calls : (made ++ [last]).map Interlude.call <+: steps.map PreprocessStep.call)
      (made_succeeded : ∀ i ∈ made, i.Succeeded) (last_failed : ¬ last.Succeeded) :
      RunOrder output id steps main (made ++ [last]) []
        (guideEvents id steps made ++ [.generationFailed (some id) output message])
  | completed {guides : List Interlude} {last : Interlude} {final : Event}
      (calls : guides.map Interlude.call = steps.map PreprocessStep.call)
      (guides_succeeded : ∀ i ∈ guides, i.Succeeded)
      (main_call : last.call = .main (main.guided steps guides))
      (final_event : (∃ message, final = .generationFailed (some id) output message) ∨
        ∃ url, final = .generationSucceeded id output url) :
      RunOrder output id steps main guides [last] (guideEvents id steps guides ++ [final])

/-- The calls, the events and the records of an execution, from the world that it starts in: it
fails after the uploads, or at compilation, or it goes on with a record for what was compiled. -/
inductive ExecutionOrder (t : Trigger) (w : World) (uploads : List PendingUpload) :
    List Interlude → List Interlude → List Interlude → List Event → List RecordId → Prop where
  | uploadFailed {sent : List Interlude} {message : String}
      (calls : sent.map Interlude.call = uploads.map PendingUpload.call)
      (failed : ∃ i ∈ sent, ¬ i.Succeeded) :
      ExecutionOrder t w uploads sent [] []
        [.executionStarted t.workflowId t.output, .generationFailed none t.output message] []
  | notCompiled {sent : List Interlude} {cause : CompileError}
      (calls : sent.map Interlude.call = uploads.map PendingUpload.call)
      (succeeded : ∀ i ∈ sent, i.Succeeded)
      (compiled : (w.settled uploads sent).compile t.output = .error cause) :
      ExecutionOrder t w uploads sent [] []
        (.executionStarted t.workflowId t.output :: uploadEvents t.output uploads ++
          [.generationFailed none t.output (ExecutionError.compilation cause).message]) []
  | ran {sent guides mains : List Interlude} {request : Request} {first : Interlude}
      {record : Record} {events : List Event}
      (calls : sent.map Interlude.call = uploads.map PendingUpload.call)
      (succeeded : ∀ i ∈ sent, i.Succeeded)
      (compiled : (w.settled uploads sent).compile t.output = .ok request)
      (first_call : (guides ++ mains).head? = some first)
      (created : first.before.store.get? record.id = some record)
      (snapshot : record.request = request.toJson)
      (run : RunOrder t.output record.id request.preprocess request.main guides mains events) :
      ExecutionOrder t w uploads sent guides mains
        (.executionStarted t.workflowId t.output :: uploadEvents t.output uploads ++
          .generationStarted record.id t.output request.flow request.main.method.name :: events)
        [record.id]

namespace ExecutionOrder

variable {t : Trigger} {w : World} {uploads : List PendingUpload}
  {sent guides mains : List Interlude} {events : List Event} {created : List RecordId}
  (order : ExecutionOrder t w uploads sent guides mains events created)
include order

theorem length_sent : sent.length = uploads.length := by
  have calls : sent.map Interlude.call = uploads.map PendingUpload.call := by
    cases order <;> assumption
  have lengths := congrArg List.length calls
  rwa [List.length_map, List.length_map] at lengths

/-- An execution whose calls succeed goes through all phases if the graph compiles. -/
theorem of_succeeded {request : Request} (succeeded : ∀ i ∈ sent ++ guides ++ mains, i.Succeeded)
    (compiled : (w.settled uploads sent).compile t.output = .ok request) :
    guides.length = request.preprocess.length ∧ mains.length = 1 := by
  cases order with
  | uploadFailed _ failed =>
    obtain ⟨i, hi, lost⟩ := failed
    exact absurd (succeeded i (by simp [hi])) lost
  | notCompiled _ _ refused => cases refused.symm.trans compiled
  | ran _ _ same _ _ _ run =>
    cases Except.ok.inj (same.symm.trans compiled)
    cases run with
    | halted made _ _ lost => exact absurd (succeeded _ (by simp)) lost
    | completed calls =>
      have lengths := congrArg List.length calls
      rw [List.length_map, List.length_map] at lengths
      exact ⟨lengths, rfl⟩

end ExecutionOrder

namespace RunOrder

variable {output : NodeId} {id : RecordId} {step : PreprocessStep} {rest : List PreprocessStep}
  {main : MainStep} {i : Interlude} {url : String}

/-- A guide that was made stands in front of all that comes after it. -/
theorem cons {guides mains : List Interlude} {events : List Event} (hc : i.call = step.call)
    (hs : i.Succeeded) (hu : i.guideUrl? = some url)
    (h : RunOrder output id rest (main.addControl (step.entry url)) guides mains events) :
    RunOrder output id (step :: rest) main (i :: guides) mains
      (.preprocessCompleted id step.nodeId url :: events) := by
  have told : ∀ later : List Interlude, guideEvents id (step :: rest) (i :: later) =
      .preprocessCompleted id step.nodeId url :: guideEvents id rest later := fun later => by
    simp only [guideEvents, List.zip_cons_cons]
    exact List.filterMap_cons_some (by rw [hu]; rfl)
  have all : ∀ later : List Interlude, (∀ j ∈ later, j.Succeeded) →
      ∀ j ∈ i :: later, j.Succeeded := fun later h j hj =>
    (List.mem_cons.1 hj).elim (fun e => e ▸ hs) (h j)
  cases h with
  | halted made calls made_succeeded last_failed =>
    rw [← List.cons_append, ← List.cons_append, ← told]
    refine .halted (i :: made) ?_ (all _ made_succeeded) last_failed
    rw [List.cons_append, List.map_cons, List.map_cons, hc]
    exact List.cons_prefix_cons.2 ⟨rfl, calls⟩
  | completed calls guides_succeeded main_call final_event =>
    rw [← List.cons_append, ← told]
    refine .completed ?_ (all _ guides_succeeded) ?_ final_event
    · rw [List.map_cons, List.map_cons, hc, calls]
    · rw [main_call, MainStep.guided, MainStep.guided, List.zip_cons_cons, List.foldl_cons, hu]
      rfl

end RunOrder

namespace Course

variable {t : Trigger} {turn : Turn} {trace : Trace} {result : Except ExecutionError Record}
  {stop found : World}

/-- A turn that fails is the last one. -/
theorem of_fail (w : World) (had : Option RecordId) (e : ExecutionError)
    (course : Course t (t.fail w had e) trace result stop) :
    trace = [.event (.generationFailed had t.output e.message)] ∧
      createdBetween w stop [] = [] := by
  obtain ⟨rfl, -, rfl⟩ := course.of_returned rfl
  exact ⟨rfl, World.namesUntil_eq_nil (t.fail_named w had e)⟩

/-- After the answer to the main call nothing is left to do but to tell the end. -/
theorem main_order {id : RecordId} {main : MainStep}
    {answer : (Stage.generating id main).call.Answer}
    (course : Course t (t.resume found (.generating id main) answer) trace result stop) :
    ∃ final, trace = [.event final] ∧ createdBetween found stop [] = [] ∧
      ((∃ message, final = .generationFailed (some id) t.output message) ∨
        ∃ url, final = .generationSucceeded id t.output url) := by
  cases answer with
  | error e =>
    obtain ⟨rfl, hn⟩ := of_fail found (some id) (.ofMainCall e) course
    exact ⟨_, rfl, hn, .inl ⟨_, rfl⟩⟩
  | ok response =>
    cases ho : Output.ofResponse response with
    | error e =>
      rw [Trigger.resume_unread ho] at course
      obtain ⟨rfl, hn⟩ := of_fail _ _ _ course
      exact ⟨_, rfl, hn, .inl ⟨_, rfl⟩⟩
    | ok image =>
      rw [Trigger.resume_read ho] at course
      cases hm : found.store.mark (.succeeded response) found.now id with
      | error e =>
        rw [Trigger.succeed_error hm] at course
        obtain ⟨rfl, hn⟩ := of_fail _ _ _ course
        exact ⟨_, rfl, hn, .inl ⟨_, rfl⟩⟩
      | ok p =>
        obtain ⟨q, hq, -, hr, -⟩ := Store.mark_eq_ok hm
        have same : p.1.id = id := by
          rw [hr, Mark.apply_id, Store.get?_id hq]
        rw [Trigger.succeed_ok hm] at course
        obtain ⟨rfl, -, rfl⟩ := course.of_returned rfl
        refine ⟨_, rfl, World.namesUntil_eq_nil (World.leave_named _ _), .inr ⟨image.imageUrl, ?_⟩⟩
        rw [same]

/-- From the first call after the record on, an execution keeps to the order, and creates nothing
more. -/
theorem run_order {id : RecordId} {steps : List PreprocessStep} {main : MainStep}
    (course : Course t turn trace result stop)
    (hp : turn.progress = .waiting (Trigger.next id steps main)) :
    ∃ guides mains events first later,
      trace.interludes = guides ++ mains ∧ guides ++ mains = first :: later ∧
      trace.events = turn.events ++ events ∧
      RunOrder t.output id steps main guides mains events ∧
      first.before = turn.world ∧ createdBetween first.after stop later = [] := by
  -- A guide that is made brings its entry into the main call, which the rest starts from.
  induction steps generalizing main turn trace with
  | nil =>
    obtain ⟨answer, found, rest, rfl, later⟩ := course.of_waiting hp
    obtain ⟨final, rfl, hn, hf⟩ := later.main_order
    refine ⟨[], [⟨.main main, turn.world, answer, found⟩], [final], _, [], ?_, rfl, ?_,
      .completed rfl (by simp) rfl hf, rfl, hn⟩
    · rw [Trace.interludes_turn]
      rfl
    · rw [Trace.events_turn]
      rfl
  | cons step rest ih =>
    obtain ⟨answer, found, tail, rfl, later⟩ := course.of_waiting hp
    cases answer with
    | error e =>
      obtain ⟨rfl, hn⟩ := of_fail found (some id) (.preprocessing step.nodeId e) later
      refine ⟨[⟨step.call, turn.world, .error e, found⟩], [],
        [.generationFailed (some id) t.output (ExecutionError.preprocessing step.nodeId e).message],
        _, [], ?_, rfl, ?_, .halted [] ?_ (by simp) ?_, rfl, hn⟩
      · rw [Trace.interludes_turn]
        rfl
      · rw [Trace.events_turn]
        rfl
      · exact List.cons_prefix_cons.2 ⟨rfl, List.nil_prefix⟩
      · exact Bool.false_ne_true
    | ok url =>
      obtain ⟨guides, mains, events, first, others, hi, hl, he, order, hb, hc⟩ := ih later rfl
      refine ⟨⟨step.call, turn.world, .ok url, found⟩ :: guides, mains,
        .preprocessCompleted id step.nodeId url :: events, _, guides ++ mains, ?_, rfl, ?_,
        .cons rfl rfl rfl order, rfl, ?_⟩
      · rw [Trace.interludes_turn, hi]
        rfl
      · rw [Trace.events_turn, he]
        rfl
      · rw [hl, createdBetween, hb, hc, List.append_nil]
        exact World.namesUntil_eq_nil rfl

/-- The upload phase makes all its calls, whatever they bring, and then it goes on with what is
settled and with the first failure, if there is one. -/
theorem upload_order {w : World} {uploads : List PendingUpload} {total : Nat}
    {failure : Option ExecutionError}
    (course : Course t (t.proceed w uploads total failure) trace result stop) :
    ∃ sent rest failure',
      trace = sent.map .call ++ rest ∧ Sent w uploads sent ∧
      (failure' = none ↔ failure = none ∧ ∀ i ∈ sent, i.Succeeded) ∧
      createdBetween w stop trace.interludes =
        createdBetween (w.settled uploads sent) stop rest.interludes ∧
      Course t (t.proceed (w.settled uploads sent) [] total failure') rest result stop := by
  -- Neither world nor failure stays as it is from one upload to the next.
  induction uploads generalizing w failure trace with
  | nil => exact ⟨[], trace, failure, rfl, .nil w, by simp, rfl, course⟩
  | cons u uploads ih =>
    obtain ⟨answer, found, tail, rfl, later⟩ := course.of_waiting rfl
    obtain ⟨next, same, hn⟩ := t.resume_uploading w found u uploads total failure answer
    rw [same] at later
    obtain ⟨sent, rest, failure', rfl, linked, hf, hc, last⟩ := ih later
    refine ⟨⟨u.call, w, answer, found⟩ :: sent, rest, failure', rfl, .cons rfl rfl linked, ?_, ?_,
      ?_⟩
    · rw [hf, hn, List.forall_mem_cons, and_assoc]
    · rw [World.settled_cons]
      exact (createdBetween_settled (i := ⟨u.call, w, answer, found⟩) u rfl _ _).trans hc
    · rw [World.settled_cons]
      exact last

/-- An execution that has uploaded all there was goes on to compile, and if that succeeds it has a
record from its next call on. -/
theorem prepare_order {w : World} (course : Course t (t.prepare w) trace result stop) :
    (∃ cause, w.compile t.output = .error cause ∧ trace.interludes = [] ∧
      trace.events = [.generationFailed none t.output (ExecutionError.compilation cause).message] ∧
      createdBetween w stop trace.interludes = []) ∨
    ∃ request guides mains events first record,
      w.compile t.output = .ok request ∧ trace.interludes = guides ++ mains ∧
      (guides ++ mains).head? = some first ∧ first.before.store.get? record.id = some record ∧
      record.request = request.toJson ∧
      RunOrder t.output record.id request.preprocess request.main guides mains events ∧
      trace.events =
        .generationStarted record.id t.output request.flow request.main.method.name :: events ∧
      createdBetween w stop trace.interludes = [record.id] := by
  cases hc : w.compile t.output with
  | error cause =>
    left
    rw [Trigger.prepare_error hc] at course
    obtain ⟨rfl, hn⟩ := of_fail _ _ _ course
    exact ⟨cause, rfl, rfl, rfl, hn⟩
  | ok request =>
    right
    rw [Trigger.prepare_ok hc] at course
    obtain ⟨guides, mains, events, first, later, hi, hl, he, order, hb, hn⟩ := course.run_order rfl
    refine ⟨request, guides, mains, events, first, w.openedRecord t request, rfl, hi, ?_, ?_, rfl,
      order, he, ?_⟩
    · rw [hl]
      rfl
    · rw [hb]
      exact w.get?_opened t request
    · rw [hi, hl, createdBetween, hn, hb, List.append_nil]
      exact World.namesUntil_succ rfl

/-- From its first turn on an execution keeps to the order of all its phases. -/
theorem execution_order {w : World} {uploads : List PendingUpload}
    (course : Course t
      ((t.proceed w uploads uploads.length none).after [.executionStarted t.workflowId t.output])
      trace result stop) :
    ∃ sent guides mains,
      trace.interludes = sent ++ guides ++ mains ∧
        ExecutionOrder t w uploads sent guides mains trace.events
          (createdBetween w stop trace.interludes) := by
  obtain ⟨tail, rfl, begun⟩ := course.of_after
  obtain ⟨sent, rest, failure, rfl, linked, hf, hc, later⟩ := begun.upload_order
  have calls := linked.calls
  simp only [Trace.interludes_append, Trace.events_append, Trace.interludes_calls,
    Trace.events_calls, Trace.interludes_last, Trace.events_last, List.nil_append] at hc ⊢
  cases failure with
  | some e =>
    have lost : ∃ i ∈ sent, ¬ i.Succeeded := by simpa using hf
    obtain ⟨rfl, hn⟩ := of_fail (w.settled uploads sent) none e later
    refine ⟨sent, [], [], by rw [List.append_nil]; rfl, ?_⟩
    rw [hc]
    exact hn ▸ .uploadFailed calls lost
  | none =>
    have sound := (hf.1 rfl).2
    rw [Trigger.proceed_done] at later
    obtain ⟨last, rfl, prepared⟩ := later.of_after
    rw [hc]
    simp only [Trace.interludes_append, Trace.events_append, Trace.interludes_last,
      Trace.events_last, List.nil_append]
    obtain ⟨cause, compiled, hi, he, hn⟩ | ⟨request, guides, mains, events, first, record, compiled,
      hi, first_call, created, snapshot, run, he, hn⟩ := prepared.prepare_order
    · refine ⟨sent, [], [], by rw [hi, List.append_nil, List.append_nil], ?_⟩
      rw [hn, he]
      exact .notCompiled calls sound compiled
    · refine ⟨sent, guides, mains, by rw [hi, List.append_assoc], ?_⟩
      rw [hn, he]
      exact .ran calls sound compiled first_call created snapshot run

end Course

namespace Surroundings

variable {σ : Type}

/-- Every execution that is let in keeps to the order. -/
theorem execute_in_order (e : Surroundings σ) {output : NodeId} {w entered : World} (s : σ)
    (h : w.enter? output = some entered) :
    ∃ sent guides mains,
      (e.trace output w s).interludes = sent ++ guides ++ mains ∧
        ExecutionOrder ⟨w.workflow.id, output⟩ entered
          (pendingUploads (ancestors w.workflow.nodes w.workflow.edges output)) sent guides mains
          (e.trace output w s).events
          (createdBetween entered (e.execute output w s).2.1 (e.trace output w s).interludes) := by
  have course := (e.execute_observed output w s).2
  rw [World.trigger, h] at course
  obtain ⟨inFlight, rfl⟩ := World.enter?_eq_some h
  exact course.execution_order

/-- The order of an execution with an upload, a step that depends on it and a main call, with a sink
that takes nothing. -/
theorem upload_in_order :
    let w : World := {
      settings := { overlapPolicy := .reject }
      workflow := ⟨"flow", "", [⟨"out", "output", .null⟩,
        ⟨"pose", "control-net-pose", .obj [("imageData", .str "pixels")]⟩], [⟨"1", "pose", "out"⟩]⟩
      recordName := toString }
    let answer (c : ServiceCall) : c.Answer := match c with
      | .upload _ => .ok ⟨"1", "/1"⟩
      | .preprocess _ _ => .ok "/pose"
      | .main _ => .ok (.str "/2")
    let e : Surroundings Unit := {
      answer c w s := (answer c, w, s)
      publish _ s := (.error ⟨"full"⟩, s) }
    let uploads := pendingUploads (ancestors w.workflow.nodes w.workflow.edges "out")
    let entered := { w with inFlight := ["out"] }
    w.enter? "out" = some entered ∧ uploads = [⟨"pose", .image, "pixels"⟩] ∧
      ∃ sent guides mains,
        (e.trace "out" w ()).interludes = sent ++ guides ++ mains ∧
          ExecutionOrder ⟨"flow", "out"⟩ entered uploads sent guides mains
            (e.trace "out" w ()).events
            (createdBetween entered (e.execute "out" w ()).2.1 (e.trace "out" w ()).interludes) ∧
          sent.length = 1 ∧ guides.length = 1 ∧ mains.length = 1 := by
  intro w answer e uploads entered
  have one : uploads = [⟨"pose", .image, "pixels"⟩] := by decide +kernel
  have enters : w.enter? "out" = some entered := rfl
  obtain ⟨sent, guides, mains, seen, order⟩ := execute_in_order e () enters
  have answered : ∀ i ∈ (e.trace "out" w ()).interludes,
      ∃ c found, i = ⟨c, found, answer c, found⟩ :=
    fun i hi => of_mem_interludes (P := fun i => ∃ c found, i = ⟨c, found, answer c, found⟩)
      (fun c found _ => ⟨c, found, rfl⟩) hi
  -- The first call is the upload, in the world that the execution starts in.
  obtain ⟨later, first⟩ : ∃ later, (e.trace "out" w ()).interludes =
      ⟨.upload "pixels", entered, answer (.upload "pixels"), entered⟩ :: later := by
    have course := (e.execute_observed "out" w ()).2
    rw [World.trigger_uploading enters one] at course
    obtain ⟨given, found, rest, whole, -⟩ := course.of_waiting rfl
    have head : (e.trace "out" w ()).interludes =
        ⟨.upload "pixels", entered, given, found⟩ :: Trace.interludes rest := by
      rw [whole]
      rfl
    obtain ⟨c, world, same⟩ := answered _ (head ▸ List.mem_cons_self)
    cases same
    exact ⟨_, head⟩
  have single : sent.length = 1 := order.length_sent.trans (congrArg List.length one)
  obtain ⟨i, rfl⟩ := List.length_eq_one_iff.1 single
  cases first.symm.trans seen
  have compiled : ((entered.settled [⟨"pose", .image, "pixels"⟩]
      [⟨.upload "pixels", entered, answer (.upload "pixels"), entered⟩]).compile
        "out").toOption.map (fun r => r.preprocess.length) = some 1 := by
    decide +kernel
  rw [← one] at compiled
  have succeeded : ∀ i ∈ (e.trace "out" w ()).interludes, i.Succeeded := by
    intro i hi
    obtain ⟨c, found, rfl⟩ := answered i hi
    cases c <;> rfl
  cases ok : (entered.settled uploads
      [⟨.upload "pixels", entered, answer (.upload "pixels"), entered⟩]).compile "out" with
  | error cause => rw [ok] at compiled; cases compiled
  | ok request =>
    rw [ok] at compiled
    obtain ⟨guided, ends⟩ := order.of_succeeded (seen ▸ succeeded) ok
    exact ⟨enters, one, _, guides, mains, seen, order, single,
      guided.trans (Option.some.inj compiled), ends⟩

end Surroundings

end ImageGraph
