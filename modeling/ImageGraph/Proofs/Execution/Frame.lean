import ImageGraph.Proofs.Execution.Overlap
import ImageGraph.Proofs.Execution.Write
import ImageGraph.Proofs.Graph.Related
import ImageGraph.Proofs.Request.TextToImage

/-! The frame of an execution: what it may change in the workflow and in the store, however it ends.
Everything it does to a node is one of its writes, so the keys of the writes bound what changes. -/

namespace ImageGraph

open Json

/-! ### Writes to nodes -/

/-- A node after writes under no other keys than those that may be written. -/
structure Node.Written (may : String → Prop) (n m : Node) : Prop where
  id : n.id = m.id
  kind : n.kind = m.kind
  object : n.data.object?.isSome → m.data.object?.isSome
  kept : ∀ key, ¬ may key → n.attribute? key = m.attribute? key
  untouched : (∀ key, ¬ may key) → n = m

/-- A workflow after writes under no other keys of its nodes than those that may be written. -/
structure Workflow.Written (may : NodeId → String → Prop) (w w' : Workflow) : Prop where
  id : w.id = w'.id
  name : w.name = w'.name
  edges : w.edges = w'.edges
  nodes : List.Forall₂ (fun n m => n.Written (may n.id) m) w.nodes w'.nodes

/-- A write that keeps to the keys that may be written. -/
structure Write.Within (may : NodeId → String → Prop) (x : Write) : Prop where
  node : ∃ key, may x.node key
  keys : ∀ key, (x.patch.get? key).isSome → may x.node key

namespace Node.Written

variable {may : String → Prop} {n m k : Node}

theorem refl (n : Node) : n.Written may n :=
  ⟨rfl, rfl, fun has => has, fun _ _ => rfl, fun _ => rfl⟩

theorem trans (h : n.Written may m) (h' : m.Written may k) : n.Written may k where
  id := h.id.trans h'.id
  kind := h.kind.trans h'.kind
  object has := h'.object (h.object has)
  kept key other := (h.kept key other).trans (h'.kept key other)
  untouched none := (h.untouched none).trans (h'.untouched none)

theorem of_merge {patch : Object} (some : ∃ key, may key)
    (keys : ∀ key, (patch.get? key).isSome → may key) (n : Node) :
    n.Written may (n.merge patch) where
  id := rfl
  kind := rfl
  object _ := by
    rw [merge, Object.object?_toJson]
    rfl
  kept key other := by
    have none : patch.get? key = none :=
      Option.not_isSome_iff_eq_none.1 fun there => other (keys key there)
    rw [attribute?_merge, none]
    rfl
  untouched none := some.elim fun key may => absurd may (none key)

end Node.Written

namespace Workflow.Written

variable {may : NodeId → String → Prop} {w w' w'' : Workflow}

theorem refl (w : Workflow) : w.Written may w :=
  ⟨rfl, rfl, rfl, List.forall₂_same.2 fun n _ => .refl n⟩

theorem trans (h : w.Written may w') (h' : w'.Written may w'') : w.Written may w'' where
  id := h.id.trans h'.id
  name := h.name.trans h'.name
  edges := h.edges.trans h'.edges
  nodes := related_trans h.nodes (fun _ _ _ first next => first.trans (first.id ▸ next)) h'.nodes

theorem of_write {x : Write} (h : x.Within may) : w.Written may (w.update x.node x.patch) where
  id := rfl
  name := rfl
  edges := rfl
  nodes := update_related (fun n => .refl n) fun n own => by
    rw [own]
    exact .of_merge h.node h.keys n

theorem of_writes {writes : List Write} (h : ∀ x ∈ writes, x.Within may) :
    w.Written may (w.write writes) := by
  induction writes generalizing w with
  | nil => exact .refl w
  | cons x rest ih =>
    obtain ⟨here, later⟩ := List.forall_mem_cons.1 h
    exact (of_write here).trans (ih later)

/-- Writes do not change which nodes are ancestors. -/
theorem ancestors (h : w.Written may w') (target : NodeId) :
    List.Forall₂ (fun n m => n.Written (may n.id) m) (ancestors w.nodes w.edges target)
      (ancestors w'.nodes w'.edges target) := by
  rw [← h.edges]
  exact ancestors_related (nodeNamed?_related (fun _ _ written => written.id) h.nodes) target

theorem ids_ancestors (h : w.Written may w') (target : NodeId) :
    (ImageGraph.ancestors w.nodes w.edges target).map Node.id =
      (ImageGraph.ancestors w'.nodes w'.edges target).map Node.id :=
  map_related (h.ancestors target) fun _ _ written => written.id

end Workflow.Written

/-! ### What an execution may write -/

/-- The attributes that the end of an execution writes. -/
def resultKeys : List String :=
  ["imageUrl", "imageId", "generationId", "seed", "prompt", "nsfw", "error"]

/-- What an execution may write, from the world that it starts in and for the calls that are seen of
it: the references of images that wait for their upload, the guides of the steps that it compiles
after the uploads, as far as their calls succeed, and the result of the output node. -/
inductive MayWrite (w : World) (output : NodeId) (seen : List Interlude) :
    NodeId → String → Prop where
  | reference {p : PendingUpload} {key : String} :
      p ∈ w.uploadsFor output → key = p.slot.idKey ∨ key = p.slot.urlKey →
      MayWrite w output seen p.nodeId key
  | guide {request : Request} {step : PreprocessStep} {i : Interlude} :
      (w.uploaded output seen).compile output = .ok request →
      (step, i) ∈ request.preprocess.zip (w.afterUploads output seen) →
      i.call = step.call → i.Succeeded → MayWrite w output seen step.nodeId "guideUrl"
  | result {key : String} : key ∈ resultKeys → MayWrite w output seen output key

theorem Output.patch_keys {o : Output} {record : RecordId} {key : String}
    (h : ((o.patch record).get? key).isSome) : key ∈ resultKeys := by
  by_contra other
  have none : (o.patch record).get? key = none := by
    simp only [resultKeys, List.mem_cons, List.not_mem_nil, or_false, not_or] at other
    simp [patch, other]
  rw [none] at h
  cases h

theorem EndWrites.within {may : NodeId → String → Prop} {output : NodeId} {writes : List Write}
    (h : EndWrites output writes) (result : ∀ key ∈ resultKeys, may output key) :
    ∀ x ∈ writes, x.Within may := by
  have error (message : String) :
      Write.Within may ⟨output, ExecutionError.patch message⟩ := by
    refine ⟨⟨"error", result _ (by simp [resultKeys])⟩, fun key there => result key ?_⟩
    by_contra other
    have none : key ≠ "error" := fun same => other (by simp [same, resultKeys])
    simp [ExecutionError.patch, none] at there
  have image (o : Output) (record : RecordId) : Write.Within may ⟨output, o.patch record⟩ :=
    ⟨⟨"error", result _ (by simp [resultKeys])⟩, fun key there => result key (o.patch_keys there)⟩
  cases h with
  | failed message => exact List.forall_mem_singleton.2 (error message)
  | succeeded o record => exact List.forall_mem_singleton.2 (image o record)
  | refused o record message =>
    exact List.forall_mem_cons.2 ⟨image o record, List.forall_mem_singleton.2 (error message)⟩

theorem PendingUpload.patch_within {may : NodeId → String → Prop} {p : PendingUpload}
    (u : UploadedImage)
    (reference : ∀ key, key = p.slot.idKey ∨ key = p.slot.urlKey → may p.nodeId key) :
    Write.Within may ⟨p.nodeId, p.patch u⟩ := by
  refine ⟨⟨_, reference _ (.inl rfl)⟩, fun key there => reference key ?_⟩
  by_contra other
  rw [get?_patch_eq_none other] at there
  cases there

theorem uploadWrites_within {may : NodeId → String → Prop} {uploads : List PendingUpload}
    {seen : List Interlude}
    (reference : ∀ p ∈ uploads, ∀ key, key = p.slot.idKey ∨ key = p.slot.urlKey →
      may p.nodeId key) : ∀ x ∈ uploadWrites uploads seen, x.Within may := by
  intro x hx
  obtain ⟨⟨p, i⟩, hp, hx⟩ := List.mem_filterMap.1 hx
  obtain ⟨u, -, rfl⟩ := Option.map_eq_some_iff.1 hx
  exact p.patch_within u (reference p (List.of_mem_zip hp).1)

theorem guideWrites_within {may : NodeId → String → Prop} {steps : List PreprocessStep}
    {seen : List Interlude}
    (guide : ∀ step i, (step, i) ∈ steps.zip seen → i.Succeeded → may step.nodeId "guideUrl") :
    ∀ x ∈ guideWrites steps seen, x.Within may := by
  intro x hx
  obtain ⟨⟨step, i⟩, hp, hx⟩ := List.mem_filterMap.1 hx
  obtain ⟨url, made, rfl⟩ := Option.map_eq_some_iff.1 hx
  have may := guide step i hp (Interlude.succeeded_of_guideUrl? made)
  refine ⟨⟨_, may⟩, fun key there => ?_⟩
  by_cases own : key = "guideUrl"
  · rwa [own]
  · simp [guidePatch, own] at there

/-! ### Records -/

/-- An execution creates one record at most and leaves every other record as it was. -/
theorem Course.spares {t : Trigger} {turn : Turn} {trace : Trace}
    {result : Except ExecutionError Record} {stop w : World} {had : Option RecordId}
    {heard : Option Json} (course : Course t turn trace result stop)
    (shape : Turn.Shape t w had heard turn) (still : ∀ i ∈ trace.interludes, i.Still) :
    ∃ own : Option RecordId,
      had.toList ++ createdBetween w stop trace.interludes = own.toList ∧
        ∀ id ∉ own, stop.store.get? id = w.store.get? id := by
  induction course generalizing w had heard with
  | ends hp =>
    obtain ⟨own, outcome⟩ := shape.outcome
    rw [Trace.interludes_last]
    exact ⟨own, outcome.created, outcome.spares⟩
  | @goesOn turn stage answer found rest result stop hp _ ih =>
    obtain ⟨own, outcome⟩ := shape.outcome
    obtain ⟨record, sound⟩ := outcome.waiting stage hp
    rw [Trace.interludes_turn] at still ⊢
    obtain ⟨here, later⟩ := List.forall_mem_cons.1 still
    obtain ⟨last, created, spared⟩ := ih (.of_resume t found stage answer sound) later
    have all : had.toList ++ createdBetween w stop
        (⟨stage.call, turn.world, answer, found⟩ :: rest.interludes) = last.toList := by
      rw [createdBetween, ← List.append_assoc, outcome.created, ← record]
      exact created
    refine ⟨last, all, fun id other => ?_⟩
    -- The record that there is by now is still the one in the end.
    have before : id ∉ own := fun same => other (Option.mem_toList.1 ?_)
    · rw [spared id other, ← outcome.spares id before]
      exact congrArg (Store.get? · id) here.store
    · rw [← created, record]
      exact List.mem_append_left _ (Option.mem_toList.2 same)

/-! ### The whole execution -/

variable {w : World} {output : NodeId} {seen : List Interlude}

/-- What is written goes to the output node and its ancestors. -/
theorem MayWrite.node_cases {id : NodeId} {key : String} (h : MayWrite w output seen id key)
    (same : (ancestors w.workflow.nodes w.workflow.edges output).map Node.id =
      (ancestors (w.uploaded output seen).workflow.nodes (w.uploaded output seen).workflow.edges
        output).map Node.id) :
    id = output ∨ id ∈ (ancestors w.workflow.nodes w.workflow.edges output).map Node.id := by
  cases h with
  | reference hp =>
    obtain ⟨n, hn, -, found⟩ := mem_pendingUploads.1 hp
    rw [(Node.pending?_eq_some found).1]
    exact .inr (List.mem_map_of_mem hn)
  | @guide request step i compiled made =>
    have steps := (Lineage.preprocess_once (compile_eq_ok.1 compiled).2 (ids_lineageOf_nodup ..)).2
    obtain ⟨a, ha, own, -⟩ := steps step (List.of_mem_zip made).1
    obtain ⟨n, hn, rfl⟩ := List.mem_map.1 ha
    rw [same, ← own]
    exact .inr (List.mem_map_of_mem hn)
  | result => exact .inl rfl

theorem guide_of_stepsFor {step : PreprocessStep} {i : Interlude}
    (made : (step, i) ∈ ((w.uploaded output seen).stepsFor output).zip (w.afterUploads output seen))
    (call : i.call = step.call) (succeeded : i.Succeeded) :
    MayWrite w output seen step.nodeId "guideUrl" := by
  unfold World.stepsFor at made
  split at made
  · rename_i request compiled
    exact .guide compiled made call succeeded
  · rw [List.zip_nil_left] at made
    cases made

/-- However an execution ends that is left alone, it changes no node but its output and the
ancestors of that, and of these no attributes but those that it may write. -/
theorem Course.frame {stop : World} {trace : Trace} {result : Except ExecutionError Record}
    (course : Course ⟨w.workflow.id, output⟩ (w.trigger output) trace result stop)
    (still : ∀ i ∈ trace.interludes, i.Still) :
    let seen := trace.interludes
    let found := ancestors w.workflow.nodes w.workflow.edges output
    w.workflow.Written (MayWrite w output seen) stop.workflow ∧
      List.Forall₂ (fun n m => n.id ≠ output → n.id ∉ found.map Node.id → n = m)
        w.workflow.nodes stop.workflow.nodes ∧
      ∃ own : Option RecordId, createdBetween w stop seen = own.toList ∧
        ∀ id ∉ own, stop.store.get? id = w.store.get? id := by
  intro seen found
  cases he : w.enter? output with
  | none =>
    rw [World.trigger_rejected he] at course
    obtain ⟨unseen, -, stopped⟩ := course.of_returned rfl
    have same : stop = w := stopped
    have nothing : seen = [] := congrArg Trace.interludes unseen
    rw [same, nothing]
    exact ⟨.refl _, List.forall₂_same.2 fun n _ _ _ => rfl, none, World.namesUntil_eq_nil rfl,
      fun _ _ => rfl⟩
  | some entered =>
    obtain ⟨uploaded, calls, last, ends, written⟩ := course.writes he still
    have references : w.workflow.Written (MayWrite w output seen)
        (w.uploaded output seen).workflow := by
      rw [uploaded]
      exact .of_writes (uploadWrites_within fun p hp key hk => .reference hp hk)
    have rest : (w.uploaded output seen).workflow.Written (MayWrite w output seen)
        stop.workflow := by
      rw [written]
      refine .of_writes (List.forall_mem_append.2
        ⟨guideWrites_within fun step i made succeeded => ?_, ends.within fun key hk => .result hk⟩)
      exact guide_of_stepsFor made (calls _ made) succeeded
    have all := references.trans rest
    refine ⟨all, ?_, ?_⟩
    · refine all.nodes.imp fun n m changed other apart => changed.untouched fun key may => ?_
      exact (may.node_cases (references.ids_ancestors output)).elim other apart
    · obtain ⟨own, created, spared⟩ := course.spares (World.trigger_shape he) still
      have created : createdBetween entered stop seen = own.toList := created
      obtain ⟨inFlight, rfl⟩ := World.enter?_eq_some he
      refine ⟨own, ?_, spared⟩
      rw [← created]
      cases seen <;> rfl

namespace Surroundings

variable {σ : Type}

/-- However an execution ends, it changes no node but its output and the ancestors of that, and of
these no attributes but references of images that waited for their upload, guides that were made
for it, and on the output its result. Ids, types and edges stay, and so does every record but the
one that it creates. -/
theorem execute_frame (e : Surroundings σ) (still : e.Still) (output : NodeId) (w : World) (s : σ) :
    let stop := (e.execute output w s).2.1
    let seen := (e.trace output w s).interludes
    let found := ancestors w.workflow.nodes w.workflow.edges output
    w.workflow.Written (MayWrite w output seen) stop.workflow ∧
      List.Forall₂ (fun n m => n.id ≠ output → n.id ∉ found.map Node.id → n = m)
        w.workflow.nodes stop.workflow.nodes ∧
      ∃ own : Option RecordId, createdBetween w stop seen = own.toList ∧
        ∀ id ∉ own, stop.store.get? id = w.store.get? id :=
  (e.execute_observed output w s).2.frame (still.of_mem output w s)

/-- A photo is uploaded and a guide made from it before the main call fails. One node stands
apart. -/
theorem execute_frame_guide :
    let w : World := {
      settings := {}
      workflow := ⟨"flow", "", [⟨"out", "output", .obj [("imageUrl", .str "old")]⟩,
        ⟨"depth", "control-net-depth", .obj [("imageData", .str "pixels")]⟩,
        ⟨"apart", "image", .obj [("imageData", .str "pixels")]⟩], [⟨"1", "depth", "out"⟩]⟩
      recordName := toString }
    let e : Surroundings Unit := {
      answer c w s := match c with
        | .upload data => (.ok ⟨data, "uploaded"⟩, w, s)
        | .preprocess image _ => (.ok image, w, s)
        | .main _ => (.error (.transport "down"), w, s)
      publish _ s := (.ok (), s) }
    let stop := (e.execute "out" w ()).2.1
    let seen := (e.trace "out" w ()).interludes
    e.Still ∧ w.workflow.Written (MayWrite w "out" seen) stop.workflow ∧
      List.Forall₂ (fun n m => n.id ≠ "out" → n.id ∉ ["out", "depth"] → n = m)
        w.workflow.nodes stop.workflow.nodes ∧
      ∃ own : Option RecordId, createdBetween w stop seen = own.toList ∧
        ∀ id ∉ own, stop.store.get? id = w.store.get? id := by
  intro w e stop seen
  have still : e.Still := fun c w s => by cases c <;> exact ⟨rfl, rfl⟩
  have ids : (ancestors w.workflow.nodes w.workflow.edges "out").map Node.id =
      ["out", "depth"] := by
    decide +kernel
  obtain ⟨written, apart, records⟩ := execute_frame e still "out" w ()
  exact ⟨still, written, ids ▸ apart, records⟩

end Surroundings

end ImageGraph
