import ImageGraph.Proofs.Execution.Work

/-! Executions for one output node, one after the other. An attempt finds what the earlier ones have
written, so nothing is uploaded twice and no guide is made twice. Only the image of the output node
itself may have to be uploaded again, once a generated image has taken its place. -/

namespace ImageGraph

/-- An execution from its start to its end. -/
structure Attempt where
  start : World
  trace : Trace
  result : Except ExecutionError Record
  stop : World

/-- The uploads and the guides that succeeded. -/
def Attempt.work (output : NodeId) (a : Attempt) : List Work :=
  uploadedWork
      (pendingUploads (ancestors a.start.workflow.nodes a.start.workflow.edges output))
      a.trace.interludes ++
    guidedWork a.trace.events

/-- Whether the image or the mask of a node is uploaded. -/
def Work.isUploadFor (node : NodeId) : Work → Bool
  | image other | mask other => other == node
  | guide _ => false

namespace Surroundings

variable {σ : Type} {e : Surroundings σ} {output : NodeId} {g : Workflow}

def attempt (e : Surroundings σ) (output : NodeId) (w : World) (s : σ) : Attempt :=
  ⟨w, e.trace output w s, (e.execute output w s).1, (e.execute output w s).2.1⟩

/-- Nobody else writes to the graph or to the store, and what is uploaded or made has a name. -/
def Quiet (e : Surroundings σ) : Prop :=
  ∀ c w s, Interlude.Quiet ⟨c, w, (e.answer c w s).1, (e.answer c w s).2.1⟩

/-- Attempts for an output node, each on the graph that the one before has left. The settings, the
clock and the surroundings may be others each time. -/
inductive Attempts (e : Surroundings σ) (output : NodeId) : Workflow → List Attempt → Prop where
  | none (g : Workflow) : Attempts e output g []
  | next (w : World) (s : σ) {later : List Attempt} :
      Attempts e output (e.attempt output w s).stop.workflow later →
      Attempts e output w.workflow (e.attempt output w s :: later)

/-- One attempt does no work twice and none that is done already. What it does, and what was done
before, lasts, but for the image of the output node if the attempt succeeds. No upload and no guide
that is seen to succeed is left out. -/
theorem advanced_attempt (quiet : e.Quiet) (lasting : Work → Prop) (output : NodeId) (w : World)
    (s : σ) (unique : (w.workflow.nodes.map Node.id).Nodup)
    (spared : ∀ r, (e.attempt output w s).result = .ok r → ¬ lasting (.image output)) :
    w.workflow.Advanced lasting (e.attempt output w s).stop.workflow
        ((e.attempt output w s).work output) ∧
      (e.attempt output w s).trace.workCount = ((e.attempt output w s).work output).length := by
  have course := (e.execute_observed output w s).2
  cases he : w.enter? output with
  | none =>
    rw [World.trigger_rejected he] at course
    obtain ⟨trace, -, stop⟩ := course.of_returned rfl
    have idle : (e.attempt output w s).work output = [] := by
      simp only [Attempt.work, attempt, trace]
      rw [Trace.events_last, Trace.interludes_last, uploadedWork, List.zip_nil_right]
      rfl
    rw [idle, attempt, stop, trace]
    exact ⟨.of_none (.refl _ _), rfl⟩
  | some entered =>
    rw [World.trigger, he] at course
    obtain ⟨inFlight, rfl⟩ := World.enter?_eq_some he
    exact Course.advanced_execution (w := { w with inFlight }) spared unique rfl rfl course
      fun i hi => of_mem_interludes quiet hi

/-- An execution whose main call has no response fails. -/
theorem attempt_failed
    (unanswered : ∀ main w s, ∃ cause, (e.answer (.main main) w s).1 = .error cause)
    (output : NodeId) (w : World) (s : σ) :
    ∃ cause, (e.attempt output w s).result = .error cause := by
  have course := (e.execute_observed output w s).2
  cases he : w.enter? output with
  | none =>
    rw [World.trigger_rejected he] at course
    obtain ⟨-, rejected, -⟩ := course.of_returned rfl
    exact ⟨_, rejected⟩
  | some entered =>
    have silent : ∀ i ∈ (e.trace output w s).interludes, i.response? = none := by
      intro i
      refine of_mem_interludes (P := fun i => i.response? = none) fun c w s => ?_
      cases c with
      | main main =>
        obtain ⟨cause, lost⟩ := unanswered main w s
        rw [lost]
        rfl
      | _ => rfl
    have ending := course.ending (World.trigger_shape he)
    unfold attempt
    generalize (e.execute output w s).1 = result at ending
    cases ending with
    | failed => exact ⟨_, rfl⟩
    | succeeded response image _ heard =>
      rw [Trace.lastResponse] at heard
      cases hl : (e.trace output w s).interludes.getLast? with
      | none => simp [hl] at heard
      | some i => simp [hl, silent i (List.mem_of_getLast? hl)] at heard

namespace Attempts

theorem of_append {earlier later : List Attempt} (h : Attempts e output g (earlier ++ later)) :
    Attempts e output g earlier := by
  induction earlier generalizing g with
  | nil => exact .none g
  | cons a rest ih =>
    cases h with
    | next w s h => exact .next w s (ih h)

/-- The work of some attempts is new to the graph that they start from, and there is none of it
twice, as far as it lasts through all of them but the last. -/
theorem work_fresh (quiet : e.Quiet) (lasting : Work → Bool) {earlier : List Attempt}
    {last : Attempt} (unique : (g.nodes.map Node.id).Nodup)
    (h : Attempts e output g (earlier ++ [last]))
    (spared : ∀ a ∈ earlier, ∀ r, a.result = .ok r → lasting (.image output) = false) :
    (((earlier ++ [last]).flatMap (Attempt.work output)).filter lasting).Nodup ∧
      ∀ x ∈ (earlier ++ [last]).flatMap (Attempt.work output), lasting x = true → ¬ g.Has x := by
  induction earlier generalizing g with
  | nil =>
    cases h with
    | next w s =>
      -- Nothing has to last through the last attempt.
      obtain ⟨advanced, -⟩ := advanced_attempt quiet (fun _ => False) output w s unique
        fun _ _ => not_false
      rw [List.nil_append, List.flatMap_singleton]
      exact ⟨advanced.once.filter lasting, fun x hx _ => advanced.fresh x hx⟩
  | cons a rest ih =>
    obtain ⟨own, later_spared⟩ := List.forall_mem_cons.1 spared
    cases h with
    | next w s later =>
      obtain ⟨advanced, -⟩ := advanced_attempt quiet (fun x => lasting x = true) output w s unique
        fun r hr => Bool.eq_false_iff.1 (own r hr)
      obtain ⟨once, fresh⟩ := ih (advanced.ids ▸ unique) later later_spared
      rw [List.cons_append, List.flatMap_cons]
      constructor
      · rw [List.filter_append]
        refine List.nodup_append.2 ⟨advanced.once.filter lasting, once, fun x hx y hy same => ?_⟩
        subst same
        obtain ⟨hx, lasts⟩ := List.mem_filter.1 hx
        exact fresh x (List.mem_filter.1 hy).1 lasts (advanced.gained x hx lasts)
      · intro x hx lasts
        obtain hx | hx := List.mem_append.1 hx
        · exact advanced.fresh x hx
        · exact fun had => fresh x hx lasts (advanced.kept x lasts had)

theorem work_counted (quiet : e.Quiet) (unique : (g.nodes.map Node.id).Nodup)
    {attempts : List Attempt} (h : Attempts e output g attempts) :
    ∀ a ∈ attempts, a.trace.workCount = (a.work output).length := by
  induction h with
  | none => exact fun _ ha => (List.not_mem_nil ha).elim
  | next w s _ ih =>
    obtain ⟨advanced, counted⟩ := advanced_attempt quiet (fun _ => False) output w s unique
      fun _ _ => not_false
    exact List.forall_mem_cons.2 ⟨counted, ih (advanced.ids ▸ unique)⟩

/-- Over attempts for one output node, whatever the service answers, no image or mask of another
node is uploaded twice and no guide is made twice. As long as all attempts have failed, nothing at
all is done twice. The work that is listed is all that is seen to succeed. -/
theorem work_once (quiet : e.Quiet) (unique : (g.nodes.map Node.id).Nodup)
    {attempts : List Attempt} (h : Attempts e output g attempts) :
    (∀ a ∈ attempts, a.trace.workCount = (a.work output).length) ∧
      ((attempts.flatMap (Attempt.work output)).filter fun x => !x.isUploadFor output).Nodup ∧
      ∀ earlier last later, attempts = earlier ++ last :: later →
        (∀ a ∈ earlier, ∃ cause, a.result = .error cause) →
        ((earlier ++ [last]).flatMap (Attempt.work output)).Nodup := by
  refine ⟨work_counted quiet unique h, ?_, ?_⟩
  · obtain rfl | ⟨earlier, last, rfl⟩ := attempts.eq_nil_or_concat
    · exact List.nodup_nil
    · rw [List.concat_eq_append] at h ⊢
      exact (work_fresh quiet _ unique h fun _ _ _ _ => by simp [Work.isUploadFor]).1
  · rintro earlier last later rfl failed
    rw [List.append_cons] at h
    have once := (work_fresh quiet (fun _ => true) unique h.of_append fun a ha r hr => ?_).1
    · rwa [List.filter_true] at once
    · obtain ⟨cause, lost⟩ := failed a ha
      cases lost.symm.trans hr

/-- Two attempts whose main calls are both lost. -/
theorem work_once_lost :
    let w : World := {
      settings := {}
      workflow := ⟨"flow", "", [⟨"out", "output", .null⟩,
        ⟨"pose", "control-net-pose", .obj [("imageData", .str "pixels")]⟩],
        [⟨"1", "pose", "out"⟩]⟩
      recordName := toString }
    let e : Surroundings Unit := {
      answer c w s := match c with
        | .upload _ => (.ok ⟨"1", "/1"⟩, w, s)
        | .preprocess _ _ => (.ok "/2", w, s)
        | .main _ => (.error (.transport "lost"), w, s)
      publish _ s := (.ok (), s) }
    let first := e.attempt "out" w ()
    let second := e.attempt "out" first.stop ()
    (e.Quiet ∧ (w.workflow.nodes.map Node.id).Nodup ∧
        Attempts e "out" w.workflow [first, second] ∧ ∃ cause, first.result = .error cause) ∧
      (∀ a ∈ [first, second], a.trace.workCount = (a.work "out").length) ∧
      (([first, second].flatMap (Attempt.work "out")).filter fun x => !x.isUploadFor "out").Nodup ∧
      ([first, second].flatMap (Attempt.work "out")).Nodup := by
  intro w e first second
  have quiet : e.Quiet := by
    intro c w s
    refine ⟨by cases c <;> rfl, by cases c <;> rfl, fun u hu => ?_, fun url hu => ?_⟩
    · cases c <;> cases hu
      decide
    · cases c <;> cases hu
      decide
  have unique : (w.workflow.nodes.map Node.id).Nodup := by decide
  have attempts : Attempts e "out" w.workflow [first, second] :=
    .next w () (.next first.stop () (.none _))
  have lost : ∃ cause, first.result = .error cause :=
    attempt_failed (fun _ _ _ => ⟨_, rfl⟩) "out" w ()
  obtain ⟨counted, others, all⟩ := work_once quiet unique attempts
  have failed : ∀ a ∈ [first], ∃ cause, a.result = .error cause := by
    rintro a ha
    rwa [List.mem_singleton.1 ha]
  exact ⟨⟨quiet, unique, attempts, lost⟩, counted, others, all [first] second [] rfl failed⟩

end Attempts

end Surroundings

end ImageGraph
