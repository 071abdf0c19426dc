import ImageGraph.Proofs.Execution.Interleaving

/-! Where overlap is rejected, the output nodes that are taken are those of the executions in
progress, each of a node of its own. A step keeps it so, and hence every schedule does. -/

namespace ImageGraph

open Executor

namespace Turn.Shape

variable {t : Trigger} {w : World} {had : Option RecordId} {heard : Option Json} {turn : Turn}

theorem settings (h : Shape t w had heard turn) : turn.world.settings = w.settings := by
  cases h with
  | waits => rfl
  | opens => rfl
  | fails => exact (congrArg World.settings (t.fail_world _ _ _)).trans (World.leave_settings _ _)
  | succeeds => exact World.leave_settings _ _

/-- While an execution waits it keeps its node. -/
theorem inFlight_of_waiting {stage : Stage} (h : Shape t w had heard turn)
    (hp : turn.progress = .waiting stage) :
    turn.world.inFlight = w.inFlight ∧ stage.Sound := by
  cases h with
  | waits hw hs hd hf => exact ⟨rfl, Progress.waiting.inj hp ▸ hd⟩
  | opens hw hn hs hd hf => exact ⟨rfl, Progress.waiting.inj hp ▸ hd⟩
  | fails => cases hp
  | succeeds => cases hp

/-- When an execution returns, whatever it returns, it gives back its node and no other. -/
theorem inFlight_of_returned {result : Except ExecutionError Record}
    (h : Shape t w had heard turn) (hr : w.settings.overlapPolicy = .reject)
    (hp : turn.progress = .returned result) :
    turn.world.inFlight = (w.inFlight.filter fun id => id ≠ t.output) ∧
      ∀ id, result ≠ .error (.alreadyRunning id) := by
  cases h with
  | waits => cases hp
  | opens => cases hp
  | fails before hw hn hf =>
    refine ⟨?_, fun id => ?_⟩
    · exact (congrArg World.inFlight (t.fail_world _ _ _)).trans (World.leave_inFlight _ hr)
    · rw [← Progress.returned.inj hp]
      exact fun h => hn id (Except.error.inj h)
  | succeeds before hd hr' ho hm hf =>
    refine ⟨World.leave_inFlight _ hr, fun id => ?_⟩
    rw [← Progress.returned.inj hp]
    exact fun h => by cases h

end Turn.Shape

private theorem mem_given_back {id output : NodeId} {taken : List NodeId} :
    (id ∈ taken.filter fun other => other ≠ output) ↔ id ∈ taken ∧ id ≠ output := by
  rw [List.mem_filter, decide_eq_true_eq]

private theorem others_iff {id output : NodeId} {outputs : List NodeId} (h : output ∉ outputs) :
    (id = output ∨ id ∈ outputs) ∧ id ≠ output ↔ id ∈ outputs := by
  constructor
  · rintro ⟨rfl | hm, hn⟩
    · exact absurd rfl hn
    · exact hm
  · intro hm
    exact ⟨.inr hm, fun he => h (he ▸ hm)⟩

namespace Executor

/-- The invariant behind exclusion. -/
structure Exclusive (x : Executor) : Prop where
  policy : x.world.settings.overlapPolicy = .reject
  distinct : x.outputs.Nodup
  taken : ∀ output, output ∈ x.world.inFlight ↔ output ∈ x.outputs
  sound : ∀ p ∈ x.waiting, p.stage.Sound

namespace Exclusive

variable {x y : Executor} {before after : List Waiting} {t : Trigger} {turn : Turn} {w : World}

/-- A turn of an execution whose node is taken, beside others with other nodes. -/
theorem of_turn {had : Option RecordId} {heard : Option Json}
    (shape : Turn.Shape t w had heard turn) (policy : w.settings.overlapPolicy = .reject)
    (distinct : (t.output :: (before ++ after).map fun p => p.trigger.output).Nodup)
    (taken : ∀ output, output ∈ w.inFlight ↔
      output ∈ t.output :: (before ++ after).map fun p => p.trigger.output)
    (sound : ∀ p ∈ before ++ after, p.stage.Sound) :
    Exclusive (settle before after t turn) := by
  cases hp : turn.progress with
  | waiting stage =>
    obtain ⟨kept, later⟩ := shape.inFlight_of_waiting hp
    have same : ((before ++ ⟨t, stage⟩ :: after).map fun p => p.trigger.output).Perm
        (t.output :: (before ++ after).map fun p => p.trigger.output) :=
      List.perm_middle.map _
    rw [settle, hp]
    -- It goes back to its place, so only the order of the nodes is to be accounted for.
    constructor
    · exact shape.settings ▸ policy
    · exact same.nodup_iff.2 distinct
    · intro output
      rw [kept, taken]
      exact same.mem_iff.symm
    · intro p hm
      obtain rfl | hm := List.mem_cons.1 (List.perm_middle.mem_iff.1 hm)
      · exact later
      · exact sound p hm
  | returned result =>
    obtain ⟨kept, -⟩ := shape.inFlight_of_returned policy hp
    obtain ⟨own, distinct⟩ := List.nodup_cons.1 distinct
    rw [settle, hp]
    -- What it gives back is nobody else's, since all the nodes are distinct.
    constructor
    · exact shape.settings ▸ policy
    · exact distinct
    · intro output
      rw [kept, mem_given_back, taken, List.mem_cons]
      exact others_iff own
    · exact sound

theorem enter?_of_mem (h : Exclusive x) {output : NodeId} (ho : output ∈ x.outputs) :
    x.world.enter? output = none := by
  rw [World.enter?, h.policy]
  exact if_pos ((h.taken output).2 ho)

theorem enter?_of_not_mem (h : Exclusive x) {output : NodeId} (ho : output ∉ x.outputs) :
    x.world.enter? output =
      some { x.world with inFlight := output :: x.world.inFlight } := by
  rw [World.enter?, h.policy]
  exact if_neg fun hm => ho ((h.taken output).1 hm)

theorem trigger (h : Exclusive x) (output : NodeId) :
    Exclusive (settle x.waiting [] ⟨x.world.workflow.id, output⟩ (x.world.trigger output)) := by
  by_cases ho : output ∈ x.outputs
  · rw [World.trigger_rejected (h.enter?_of_mem ho), settle, List.append_nil]
    exact h
  · have shape := World.trigger_shape (h.enter?_of_not_mem ho)
    refine of_turn shape h.policy ?_ ?_ ?_
    · rw [List.append_nil]
      exact List.nodup_cons.2 ⟨ho, h.distinct⟩
    · intro other
      rw [List.append_nil, List.mem_cons, List.mem_cons, h.taken other]
      rfl
    · rw [List.append_nil]
      exact h.sound

theorem answer {stage : Stage} (h : Exclusive ⟨w, before ++ ⟨t, stage⟩ :: after⟩)
    (answer : stage.call.Answer) : Exclusive (settle before after t (t.resume w stage answer)) := by
  have same : (outputs ⟨w, before ++ ⟨t, stage⟩ :: after⟩).Perm
      (t.output :: (before ++ after).map fun p => p.trigger.output) :=
    List.perm_middle.map _
  have sound : ∀ p ∈ (⟨t, stage⟩ : Waiting) :: (before ++ after), p.stage.Sound := fun p hm =>
    h.sound p (List.perm_middle.mem_iff.2 hm)
  refine of_turn (Turn.Shape.of_resume t w stage answer (sound _ List.mem_cons_self)) h.policy
    (same.nodup_iff.1 h.distinct) ?_ ?_
  · intro output
    rw [h.taken output]
    exact same.mem_iff
  · intro p hm
    exact sound p (List.mem_cons_of_mem _ hm)

theorem step (h : Exclusive x) (hs : Step World.Outside x y) : Exclusive y := by
  cases hs with
  | trigger _ output => exact h.trigger output
  | answer _ _ _ _ reply => exact h.answer reply
  | other outside =>
    obtain ⟨settings, inFlight⟩ := outside
    exact ⟨settings ▸ h.policy, h.distinct, inFlight ▸ h.taken, h.sound⟩

theorem schedule (h : Exclusive x) (hs : Schedule World.Outside x y) : Exclusive y := by
  induction hs with
  | refl => exact h
  | tail _ last ih => exact ih.step last

end Exclusive

theorem exclusive_start {w : World} (policy : w.settings.overlapPolicy = .reject)
    (free : w.inFlight = []) : Exclusive ⟨w, []⟩ where
  policy := policy
  distinct := List.nodup_nil
  taken output := by simp [free, outputs]
  sound := by simp

/-- What rejecting overlap promises at a moment of a schedule. -/
structure Guarded (x : Executor) : Prop where
  distinct : x.outputs.Nodup
  taken : ∀ output, output ∈ x.world.inFlight ↔ output ∈ x.outputs
  /-- A trigger for a taken node changes nothing, and neither calls the service nor tells the
  sink. -/
  rejected : ∀ output ∈ x.outputs,
    x.world.trigger output = ⟨x.world, [], .returned (.error (.alreadyRunning output))⟩
  /-- Every other trigger starts an execution. -/
  admitted : ∀ output ∉ x.outputs,
    (x.world.trigger output).events.head? =
        some (.executionStarted x.world.workflow.id output) ∧
      ∀ id, (x.world.trigger output).progress ≠ .returned (.error (.alreadyRunning id))
  /-- An execution that ends without a call leaves no trace of its node. -/
  ended : ∀ output ∉ x.outputs, ∀ result,
    (x.world.trigger output).progress = .returned result →
      ∀ id, id ∈ (x.world.trigger output).world.inFlight ↔ id ∈ x.outputs
  /-- An execution that ends after an answer, however it ends, gives back its own node only. -/
  released : ∀ p ∈ x.waiting, ∀ answer result,
    (p.trigger.resume x.world p.stage answer).progress = .returned result →
      (∀ id, result ≠ .error (.alreadyRunning id)) ∧
      ∀ id, id ∈ (p.trigger.resume x.world p.stage answer).world.inFlight ↔
        id ∈ x.outputs ∧ id ≠ p.trigger.output

theorem Exclusive.guarded {x : Executor} (h : Exclusive x) : Guarded x where
  distinct := h.distinct
  taken := h.taken
  rejected output ho := World.trigger_rejected (h.enter?_of_mem ho)
  admitted output ho := by
    have he := h.enter?_of_not_mem ho
    constructor
    · rw [World.trigger, he]
      rfl
    · intro id hp
      exact ((World.trigger_shape he).inFlight_of_returned h.policy hp).2 id rfl
  ended output ho result hp id := by
    have he := h.enter?_of_not_mem ho
    obtain ⟨kept, -⟩ := (World.trigger_shape he).inFlight_of_returned h.policy hp
    rw [kept, mem_given_back, List.mem_cons, h.taken]
    exact others_iff ho
  released p hm answer result hp := by
    have shape := Turn.Shape.of_resume p.trigger x.world p.stage answer (h.sound p hm)
    obtain ⟨kept, own⟩ := shape.inFlight_of_returned h.policy hp
    refine ⟨own, fun id => ?_⟩
    rw [kept, mem_given_back, h.taken]

/-- Where overlap is rejected, an executor that begins with nothing in progress is guarded at every
moment of every schedule. -/
theorem schedule_guarded {w : World} {x : Executor} (policy : w.settings.overlapPolicy = .reject)
    (free : w.inFlight = []) (h : Schedule World.Outside ⟨w, []⟩ x) : Guarded x := by
  have start := exclusive_start policy free
  exact (start.schedule h).guarded

/-- Two executions wait for their uploads, a trigger for the node of the first is rejected, and then
the first fails. -/
theorem upload_guarded :
    let w : World := {
      settings := { overlapPolicy := .reject }
      workflow := ⟨"flow", "", [⟨"out", "output", .obj [("imageData", .str "pixels")]⟩,
        ⟨"other", "output", .obj [("imageData", .str "more")]⟩], []⟩
      recordName := toString }
    w.settings.overlapPolicy = .reject ∧ w.inFlight = [] ∧
      ∃ x y, Schedule World.Outside ⟨w, []⟩ x ∧ x.outputs = ["out", "other"] ∧ Guarded x ∧
        (x.world.trigger "out").progress = .returned (.error (.alreadyRunning "out")) ∧
        Schedule World.Outside x y ∧ y.outputs = ["other"] ∧ y.world.inFlight = ["other"] ∧
        Guarded y := by
  intro w
  let first : Waiting := ⟨⟨"flow", "out"⟩, .uploading ⟨"out", .image, "pixels"⟩ [] 1 none⟩
  let second : Waiting := ⟨⟨"flow", "other"⟩, .uploading ⟨"other", .image, "more"⟩ [] 1 none⟩
  let alone : World := { w with inFlight := ["out"] }
  let x : Executor := ⟨{ w with inFlight := ["other", "out"] }, [first, second]⟩
  have begins : w.trigger "out" =
      ⟨alone, [.executionStarted "flow" "out"], .waiting first.stage⟩ := by
    have pending : pendingUploads (ancestors w.workflow.nodes w.workflow.edges "out") =
        [⟨"out", .image, "pixels"⟩] := by decide +kernel
    exact World.trigger_uploading rfl pending
  have joins : alone.trigger "other" =
      ⟨x.world, [.executionStarted "flow" "other"], .waiting second.stage⟩ := by
    have pending : pendingUploads (ancestors w.workflow.nodes w.workflow.edges "other") =
        [⟨"other", .image, "more"⟩] := by decide +kernel
    exact World.trigger_uploading rfl pending
  have both : Schedule World.Outside ⟨w, []⟩ x := by
    have started : Step World.Outside ⟨w, []⟩ _ := .trigger _ "out"
    have joined : Step World.Outside ⟨alone, [first]⟩ _ := .trigger _ "other"
    rw [begins] at started
    rw [joins] at joined
    exact .tail (.single started) joined
  have rejected : Step World.Outside x x := .trigger x "out"
  have failed : Step World.Outside x _ :=
    .answer x.world [] [second] first.trigger (.error (.transport "down"))
  have after : Schedule World.Outside x _ := .tail (.single rejected) failed
  exact ⟨rfl, rfl, x, _, both, rfl, schedule_guarded rfl rfl both, rfl, after, rfl, rfl,
    schedule_guarded rfl rfl (both.trans after)⟩

end Executor

/-- Once an execution has returned, no node is taken any more, whatever was executed within its
calls. -/
theorem Surroundings.execute_inFlight {σ : Type} {e : Surroundings σ}
    (he : e.Schedules World.Outside) (output : NodeId) {w : World} (s : σ)
    (policy : w.settings.overlapPolicy = .reject) (free : w.inFlight = []) :
    (e.execute output w s).2.1.inFlight = [] := by
  have last := (exclusive_start policy free).schedule (e.execute_schedules he output w s [])
  apply List.eq_nil_iff_forall_not_mem.2
  intro id hm
  exact List.not_mem_nil ((last.taken id).1 hm)

theorem Rehearsal.execute_inFlight (depth : Nat) (output : NodeId) {w : World} (s : Script)
    (policy : w.settings.overlapPolicy = .reject) (free : w.inFlight = []) :
    ((player depth).surroundings.execute output w s).2.1.inFlight = [] :=
  Surroundings.execute_inFlight (player_schedules Command.perform_outside depth) output s policy
    free

end ImageGraph
