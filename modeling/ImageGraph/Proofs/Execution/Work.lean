import ImageGraph.Proofs.Execution.Order
import ImageGraph.Proofs.Request.Guide
import ImageGraph.Proofs.Request.TextToImage
import ImageGraph.Proofs.Upload.Answer

/-! What an execution has the service do apart from the main call. The result of each piece of work
is kept in an attribute of a node, and no piece is done whose attribute is there already. So what is
done stays done, until something takes the attribute away. -/

namespace ImageGraph

open Json

/-- The upload of the image or the mask of a node, or the making of its guide. -/
inductive Work where
  | image (node : NodeId)
  | mask (node : NodeId)
  | guide (node : NodeId)
  deriving Repr, DecidableEq

namespace Work

def node : Work → NodeId
  | image node | mask node | guide node => node

/-- The attribute that holds the result. -/
def key : Work → String
  | image _ => "imageId"
  | mask _ => "maskId"
  | guide _ => "guideUrl"

theorem key_cases (x : Work) : x.key = "imageId" ∨ x.key = "maskId" ∨ x.key = "guideUrl" := by
  cases x <;> simp [key]

theorem eq_image {x : Work} (h : x.key = "imageId") : x = .image x.node := by
  cases x with
  | image node => rfl
  | mask node => cases (by decide : "maskId" ≠ "imageId") h
  | guide node => cases (by decide : "guideUrl" ≠ "imageId") h

end Work

def PendingUpload.work (p : PendingUpload) : Work :=
  if p.slot = .image then .image p.nodeId else .mask p.nodeId

theorem PendingUpload.work_cases {p : PendingUpload} (h : p.slot ∈ ImageSlot.all) :
    p.slot = .image ∧ p.work = .image p.nodeId ∨ p.slot = .mask ∧ p.work = .mask p.nodeId := by
  obtain image | h := List.mem_cons.1 h
  · exact .inl ⟨image, if_pos image⟩
  · have mask := List.mem_singleton.1 h
    exact .inr ⟨mask, if_neg (by rw [mask]; decide)⟩

theorem PendingUpload.work_node (p : PendingUpload) : p.work.node = p.nodeId := by
  unfold work
  split <;> rfl

theorem PendingUpload.work_key {p : PendingUpload} (h : p.slot ∈ ImageSlot.all) :
    p.work.key = p.slot.idKey := by
  obtain ⟨slot, work⟩ | ⟨slot, work⟩ := work_cases h <;> rw [slot, work] <;> rfl

theorem PendingUpload.place_eq {p q : PendingUpload} (hp : p.slot ∈ ImageSlot.all)
    (hq : q.slot ∈ ImageSlot.all) (h : p.work = q.work) : p.place = q.place := by
  have node : p.nodeId = q.nodeId := by rw [← p.work_node, h, q.work_node]
  have slot : p.slot = q.slot := by
    obtain ⟨first, hp⟩ | ⟨first, hp⟩ := work_cases hp <;>
      obtain ⟨second, hq⟩ | ⟨second, hq⟩ := work_cases hq <;> rw [hp, hq] at h
    · rw [first, second]
    · cases h
    · cases h
    · rw [first, second]
  exact Prod.ext node slot

theorem PendingUpload.work_ne_guide (p : PendingUpload) (node : NodeId) : p.work ≠ .guide node := by
  unfold work
  split <;> simp

def PreprocessStep.work (s : PreprocessStep) : Work :=
  .guide s.nodeId

namespace Workflow

variable {w w' w'' : Workflow} {x : Work} {patch : Object}

/-- The node of a piece of work holds its result. -/
def Has (w : Workflow) (x : Work) : Prop :=
  ∀ n, w.node? x.node = some n → (n.text? x.key).isSome = true

theorem not_has {n : Node} (there : w.node? x.node = some n) (blank : n.text? x.key = none) :
    ¬ w.Has x := by
  intro h
  have filled := h n there
  rw [blank] at filled
  cases filled

/-- A patch that leaves an attribute alone or fills it. -/
def Fills (patch : Object) (key : String) : Prop :=
  ∃ s, patch.get? key = some (.str s) ∧ Text.allBlank s = false

theorem text?_merge {n : Node} {key : String} (h : Fills patch key) :
    ((n.merge patch).text? key).isSome = true := by
  obtain ⟨s, written, filled⟩ := h
  rw [Node.text?, Node.attribute?_merge, written]
  simp [patchedValue, isNull, string?, filled]

theorem has_update (h : Fills patch x.key) : (w.update x.node patch).Has x := by
  intro n hn
  rw [node?_update] at hn
  obtain ⟨old, -, rfl⟩ := Option.map_eq_some_iff.1 hn
  rw [if_pos rfl]
  exact text?_merge h

theorem Has.update {id : NodeId} (had : w.Has x)
    (h : x.node = id → patch.get? x.key = none ∨ Fills patch x.key) :
    (w.update id patch).Has x := by
  intro n hn
  rw [node?_update] at hn
  obtain ⟨old, there, rfl⟩ := Option.map_eq_some_iff.1 hn
  split
  · rename_i own
    obtain kept | filled := h own
    · rw [Node.text?, Node.attribute?_merge, kept]
      exact had old there
    · exact text?_merge filled
  · exact had old there

/-- The way from one workflow to another, with some work done: what is lasting stays done. -/
structure Worked (lasting : Work → Prop) (w w' : Workflow) (done : List Work) : Prop where
  ids : w'.nodes.map Node.id = w.nodes.map Node.id
  kept : ∀ x, lasting x → w.Has x → w'.Has x
  gained : ∀ x ∈ done, lasting x → w'.Has x

namespace Worked

variable {lasting : Work → Prop} {xs ys : List Work}

theorem refl (lasting : Work → Prop) (w : Workflow) : Worked lasting w w [] :=
  ⟨rfl, fun _ _ had => had, fun _ h => (List.not_mem_nil h).elim⟩

theorem trans (h : Worked lasting w w' xs) (h' : Worked lasting w' w'' ys) :
    Worked lasting w w'' (xs ++ ys) where
  ids := h'.ids.trans h.ids
  kept x hx had := h'.kept x hx (h.kept x hx had)
  gained x hm hx := by
    obtain hm | hm := List.mem_append.1 hm
    · exact h'.kept x hx (h.gained x hm hx)
    · exact h'.gained x hm hx

theorem weaken {narrow : Work → Prop} (h : Worked lasting w w' xs)
    (within : ∀ x, narrow x → lasting x) : Worked narrow w w' xs where
  ids := h.ids
  kept x hx := h.kept x (within x hx)
  gained x hm hx := h.gained x hm (within x hx)

theorem of_update {id : NodeId}
    (h : ∀ x, lasting x → x.node = id → patch.get? x.key = none ∨ Fills patch x.key) :
    Worked lasting w (w.update id patch) [] where
  ids := w.ids_update id patch
  kept x hx had := had.update (h x hx)
  gained _ hm := (List.not_mem_nil hm).elim

theorem of_work {x : Work} {id : NodeId} (own : x.node = id) (filled : Fills patch x.key)
    (h : ∀ y, lasting y → y.node = id → patch.get? y.key = none ∨ Fills patch y.key) :
    Worked lasting w (w.update id patch) [x] where
  ids := w.ids_update id patch
  kept y hy had := had.update (h y hy)
  gained y hm _ := by
    rw [List.mem_singleton.1 hm, ← own]
    exact has_update filled

/-! ### What an execution writes -/

theorem of_settle {p : PendingUpload} {u : UploadedImage} (slot : p.slot ∈ ImageSlot.all)
    (filled : Text.allBlank u.id = false) : Worked lasting w (w.settle p u) [p.work] := by
  have key := PendingUpload.work_key slot
  have own : Fills (p.patch u) p.work.key := by
    refine ⟨u.id, ?_, filled⟩
    rw [key, PendingUpload.get?_patch, if_neg (ImageSlot.idKey_ne_urlKey _ slot), if_pos rfl]
  refine of_work p.work_node own fun y _ _ => ?_
  by_cases same : y.key = p.work.key
  · rw [same]
    exact .inr own
  · have other : y.key ≠ p.slot.urlKey := by
      obtain ⟨slot, -⟩ | ⟨slot, -⟩ := PendingUpload.work_cases slot <;>
        obtain h | h | h := y.key_cases <;> simp [slot, h, ImageSlot.image, ImageSlot.mask]
    exact .inl (PendingUpload.get?_patch_eq_none (not_or.2 ⟨key ▸ same, other⟩))

theorem of_guide (node : NodeId) {url : String} (filled : Text.allBlank url = false) :
    Worked lasting w (w.update node (guidePatch url)) [.guide node] := by
  have own : Fills (guidePatch url) (Work.guide node).key :=
    ⟨url, by simp [guidePatch, Work.key], filled⟩
  refine of_work rfl own fun y _ _ => ?_
  by_cases same : y.key = (Work.guide node).key
  · rw [same]
    exact .inr own
  · have other : y.key ≠ "guideUrl" := same
    exact .inl (by simp [guidePatch, other])

theorem of_failure (output : NodeId) (message : String) :
    Worked lasting w (w.update output (ExecutionError.patch message)) [] := by
  refine of_update fun x _ _ => .inl ?_
  have other : x.key ≠ "error" := by
    obtain h | h | h := x.key_cases <;> simp [h]
  rw [ExecutionError.patch, Object.get?_insert, if_neg other, Object.get?_empty]

/-- A generated image takes the place of the one that the output node had. -/
theorem of_output {output : NodeId} (spared : ¬ lasting (.image output)) (image : Output)
    (record : RecordId) : Worked lasting w (w.update output (image.patch record)) [] := by
  refine of_update fun x hx own => .inl ?_
  obtain h | h | h := x.key_cases
  · rw [Work.eq_image h, own] at hx
    exact absurd hx spared
  · simp [Output.patch, h]
  · simp [Output.patch, h]

end Worked

end Workflow

/-- Each piece of the work is done once, and none of it was done before. -/
structure Workflow.Advanced (lasting : Work → Prop) (w w' : Workflow) (done : List Work) : Prop
    extends Workflow.Worked lasting w w' done where
  once : done.Nodup
  fresh : ∀ x ∈ done, ¬ w.Has x

theorem Workflow.Advanced.of_none {lasting : Work → Prop} {w w' : Workflow}
    (worked : w.Worked lasting w' []) : w.Advanced lasting w' [] :=
  ⟨worked, List.nodup_nil, fun _ hx => (List.not_mem_nil hx).elim⟩

/-! ### What is seen of the work -/

/-- An answer that leaves the graph and the store alone and names what it made. -/
structure Interlude.Quiet (i : Interlude) : Prop where
  workflow : i.after.workflow = i.before.workflow
  store : i.after.store = i.before.store
  uploaded : ∀ u ∈ i.uploaded?, Text.allBlank u.id = false
  guide : ∀ url ∈ i.guideUrl?, Text.allBlank url = false

/-- The answer to an upload or to the making of a guide that succeeded. -/
def Interlude.isWork (i : Interlude) : Bool :=
  i.uploaded?.isSome || i.guideUrl?.isSome

/-- How many pieces of work are seen to succeed. -/
def Trace.workCount (trace : Trace) : Nat :=
  trace.interludes.countP Interlude.isWork

theorem Trace.workCount_turn (events : List Event) (i : Interlude) (rest : Trace) :
    Trace.workCount (events.map .event ++ .call i :: rest) =
      Trace.workCount rest + if i.isWork then 1 else 0 := by
  rw [workCount, interludes_turn, List.countP_cons]
  rfl

theorem Trace.workCount_events (events : List Event) (rest : Trace) :
    Trace.workCount (events.map .event ++ rest) = Trace.workCount rest := by
  rw [workCount, interludes_append, interludes_last, List.nil_append]
  rfl

/-- The uploads that succeeded, of those that an execution makes before any other call. -/
def uploadedWork (uploads : List PendingUpload) (seen : List Interlude) : List Work :=
  (uploads.zip seen).filterMap fun p => p.2.uploaded?.map fun _ => p.1.work

def Event.guided? : Event → Option Work
  | .preprocessCompleted _ node _ => some (.guide node)
  | _ => none

/-- The guides that were made. -/
def guidedWork (events : List Event) : List Work :=
  events.filterMap Event.guided?

@[simp] theorem guidedWork_append (events later : List Event) :
    guidedWork (events ++ later) = guidedWork events ++ guidedWork later :=
  List.filterMap_append

theorem works_pendingUploads_nodup {nodes : List Node} (distinct : (nodes.map Node.id).Nodup) :
    ((pendingUploads nodes).map PendingUpload.work).Nodup := by
  have places := places_pendingUploads_nodup distinct
  rw [List.Nodup, List.pairwise_map] at places ⊢
  refine places.imp_of_mem fun {p q} hp hq other same => other ?_
  exact PendingUpload.place_eq (slot_of_mem_pendingUploads hp) (slot_of_mem_pendingUploads hq) same

/-- A slot that waits for its upload does not have it. -/
theorem not_has_pending {w : Workflow} (unique : (w.nodes.map Node.id).Nodup) {target : NodeId}
    {p : PendingUpload} (h : p ∈ pendingUploads (ancestors w.nodes w.edges target)) :
    ¬ w.Has p.work := by
  obtain ⟨n, hn, -, hp⟩ := mem_pendingUploads.1 h
  have there : w.node? p.work.node = some n := by
    rw [p.work_node, (Node.pending?_eq_some hp).1]
    exact node?_of_mem_ancestors unique hn
  refine Workflow.not_has there ?_
  rw [PendingUpload.work_key (slot_of_mem_pendingUploads h)]
  exact Node.unidentified_of_pending? hp

theorem guide_of_mem_guidedWork {events : List Event} {x : Work} (h : x ∈ guidedWork events) :
    ∃ node, x = .guide node := by
  obtain ⟨event, -, h⟩ := List.mem_filterMap.1 h
  cases event <;> cases h
  exact ⟨_, rfl⟩

theorem uploadedWork_sublist (uploads : List PendingUpload) (seen : List Interlude) :
    (uploadedWork uploads seen).Sublist (uploads.map PendingUpload.work) := by
  induction uploads generalizing seen with
  | nil => exact .slnil
  | cons p rest ih =>
    cases seen with
    | nil => exact List.nil_sublist _
    | cons i seen =>
      rw [uploadedWork, List.zip_cons_cons, List.filterMap_cons]
      cases i.uploaded? with
      | none => exact (ih seen).cons _
      | some u => exact (ih seen).cons_cons _

namespace Course

variable {t : Trigger} {turn : Turn} {trace : Trace} {result : Except ExecutionError Record}
  {stop found : World} {lasting : Work → Prop}

/-- The upload phase does the work of the uploads that succeed, and the store does not change. -/
theorem worked_uploads {w : World} {uploads : List PendingUpload} {total : Nat}
    {failure : Option ExecutionError}
    (course : Course t (t.proceed w uploads total failure) trace result stop)
    (slots : ∀ p ∈ uploads, p.slot ∈ ImageSlot.all) (quiet : ∀ i ∈ trace.interludes, i.Quiet) :
    ∃ w' rest failure', Course t (t.proceed w' [] total failure') rest result stop ∧
      w.workflow.Worked (fun _ => True) w'.workflow (uploadedWork uploads trace.interludes) ∧
      trace.workCount =
        (uploadedWork uploads trace.interludes).length + rest.workCount ∧
      trace.events = rest.events ∧ ∀ i ∈ rest.interludes, i.Quiet := by
  induction uploads generalizing w failure trace with
  | nil => exact ⟨w, trace, failure, course, .refl _ _, (Nat.zero_add _).symm, rfl, quiet⟩
  | cons p uploads ih =>
    obtain ⟨answer, found, tail, rfl, later⟩ := course.of_waiting rfl
    obtain ⟨slot, slots⟩ := List.forall_mem_cons.1 slots
    rw [Trace.interludes_turn] at quiet ⊢
    rw [Trace.events_turn, Trace.workCount_turn]
    obtain ⟨calm, calm_rest⟩ := List.forall_mem_cons.1 quiet
    have same : found.workflow = w.workflow := calm.workflow
    cases answer with
    | error e =>
      obtain ⟨w', rest, failure', last, worked, counted, told⟩ := ih later slots calm_rest
      rw [same] at worked
      exact ⟨w', rest, failure', last, worked, counted, told⟩
    | ok u =>
      obtain ⟨w', rest, failure', last, worked, counted, told⟩ := ih later slots calm_rest
      have settled :
          found.workflow.Worked (fun _ => True) (found.workflow.settle p u) [p.work] :=
        .of_settle slot (calm.uploaded u rfl)
      rw [same] at settled worked
      refine ⟨w', rest, failure', last, settled.trans worked, ?_, told⟩
      rw [counted]
      exact Nat.add_right_comm _ _ _

theorem worked_fail (w : World) (had : Option RecordId) (e : ExecutionError)
    (course : Course t (t.fail w had e) trace result stop) :
    Workflow.Worked lasting w.workflow stop.workflow [] ∧ guidedWork trace.events = [] ∧
      trace.workCount = 0 := by
  obtain ⟨rfl, rfl, rfl⟩ := course.of_returned rfl
  rw [t.fail_world, World.leave_workflow]
  exact ⟨.of_failure t.output e.message, rfl, rfl⟩

section

variable (spared : ∀ r, result = .ok r → ¬ lasting (.image t.output))
include spared

/-- The store does not refuse the success of a record that is running. -/
theorem worked_main {id : RecordId} {main : MainStep} {r : Record}
    {answer : (Stage.generating id main).call.Answer}
    (course : Course t (t.resume found (.generating id main) answer) trace result stop)
    (opened : found.store.get? id = some r) (running : r.status = .running) :
    found.workflow.Worked lasting stop.workflow [] ∧ guidedWork trace.events = [] ∧
      trace.workCount = 0 := by
  cases answer with
  | error e => exact worked_fail found (some id) (.ofMainCall e) course
  | ok response =>
    cases ho : Output.ofResponse response with
    | error e =>
      rw [Trigger.resume_unread ho] at course
      exact worked_fail _ _ _ course
    | ok image =>
      have marked : found.store.mark (.succeeded response) found.now id = .ok _ :=
        Store.mark_ok opened (by rw [running]; rfl)
      rw [Trigger.resume_read ho, Trigger.succeed_ok marked] at course
      obtain ⟨rfl, rfl, rfl⟩ := course.of_returned rfl
      rw [World.leave_workflow]
      exact ⟨.of_output (spared _ rfl) image id, rfl, rfl⟩

/-- From its record on an execution makes guides, each for a step of its own. -/
theorem worked_run {id : RecordId} {steps : List PreprocessStep} {main : MainStep} {r : Record}
    (course : Course t turn trace result stop)
    (hp : turn.progress = .waiting (Trigger.next id steps main))
    (opened : turn.world.store.get? id = some r) (running : r.status = .running)
    (quiet : ∀ i ∈ trace.interludes, i.Quiet) :
    ∃ guides : List Work, guides.Sublist (steps.map PreprocessStep.work) ∧
      turn.world.workflow.Worked lasting stop.workflow guides ∧
      guidedWork trace.events = guidedWork turn.events ++ guides ∧
      trace.workCount = guides.length := by
  induction steps generalizing main turn trace with
  | nil =>
    obtain ⟨answer, found, tail, rfl, later⟩ := course.of_waiting hp
    rw [Trace.interludes_turn] at quiet
    obtain ⟨calm, -⟩ := List.forall_mem_cons.1 quiet
    obtain ⟨worked, told, counted⟩ := later.worked_main spared (calm.store ▸ opened) running
    refine ⟨[], .slnil, ?_, ?_, ?_⟩
    · rw [← calm.workflow]
      exact worked
    · rw [Trace.events_turn, guidedWork_append, told]
    · rw [Trace.workCount_turn, counted]
      rfl
  | cons step rest ih =>
    obtain ⟨answer, found, tail, rfl, later⟩ := course.of_waiting hp
    rw [Trace.interludes_turn] at quiet
    obtain ⟨calm, calm_rest⟩ := List.forall_mem_cons.1 quiet
    have same : found.workflow = turn.world.workflow := calm.workflow
    have kept : found.store = turn.world.store := calm.store
    rw [Trace.events_turn, guidedWork_append, Trace.workCount_turn]
    cases answer with
    | error e =>
      obtain ⟨worked, told, counted⟩ :=
        worked_fail found (some id) (.preprocessing step.nodeId e) later
      rw [same] at worked
      exact ⟨[], List.nil_sublist _, worked, by rw [told], by rw [counted]; rfl⟩
    | ok url =>
      obtain ⟨guides, sub, worked, told, counted⟩ := ih later rfl (kept ▸ opened) calm_rest
      have guided : found.workflow.Worked lasting
          (found.workflow.update step.nodeId (guidePatch url)) [step.work] :=
        .of_guide step.nodeId (calm.guide url rfl)
      refine ⟨step.work :: guides, sub.cons_cons _, ?_, ?_, ?_⟩
      · rw [← same]
        exact guided.trans worked
      · rw [told]
        rfl
      · rw [counted]
        rfl

/-- The guides of an execution are for control-nets that have none yet. -/
theorem advanced_prepare {w : World} (unique : (w.workflow.nodes.map Node.id).Nodup)
    (course : Course t (t.prepare w) trace result stop) (quiet : ∀ i ∈ trace.interludes, i.Quiet) :
    w.workflow.Advanced lasting stop.workflow (guidedWork trace.events) ∧
      trace.workCount = (guidedWork trace.events).length := by
  cases hc : w.compile t.output with
  | error cause =>
    rw [Trigger.prepare_error hc] at course
    obtain ⟨worked, told, counted⟩ := worked_fail _ _ _ course
    rw [told]
    exact ⟨.of_none worked, counted⟩
  | ok request =>
    obtain ⟨once, unguided⟩ :=
      Lineage.preprocess_once (compile_eq_ok.1 hc).2 (ids_lineageOf_nodup ..)
    rw [Trigger.prepare_ok hc] at course
    obtain ⟨guides, sub, worked, told, counted⟩ :=
      course.worked_run spared rfl (w.get?_opened t request) rfl quiet
    have told : guidedWork trace.events = guides := told
    rw [told]
    refine ⟨⟨worked, ?_, fun x hx => ?_⟩, counted⟩
    · refine sub.nodup ?_
      rw [List.Nodup, List.pairwise_map] at once ⊢
      exact once.imp fun other same => other (Work.guide.inj same)
    · obtain ⟨s, hs, rfl⟩ := List.mem_map.1 (sub.subset hx)
      obtain ⟨a, ha, same, blank⟩ := unguided s hs
      obtain ⟨n, hn, rfl⟩ := List.mem_map.1 ha
      have there : w.workflow.node? s.nodeId = some n := by
        rw [← same]
        exact node?_of_mem_ancestors unique hn
      exact Workflow.not_has there blank

theorem advanced_uploaded {w : World} {total : Nat} {failure : Option ExecutionError}
    (unique : (w.workflow.nodes.map Node.id).Nodup)
    (course : Course t (t.proceed w [] total failure) trace result stop)
    (quiet : ∀ i ∈ trace.interludes, i.Quiet) :
    w.workflow.Advanced lasting stop.workflow (guidedWork trace.events) ∧
      trace.workCount = (guidedWork trace.events).length := by
  cases failure with
  | some e =>
    obtain ⟨worked, told, counted⟩ := worked_fail w none e course
    rw [told]
    exact ⟨.of_none worked, counted⟩
  | none =>
    by_cases all : total = 0
    · rw [Trigger.proceed, if_pos all] at course
      exact advanced_prepare spared unique course quiet
    · rw [Trigger.proceed, if_neg all] at course
      obtain ⟨rest, rfl, prepared⟩ := course.of_after
      rw [Trace.interludes_append] at quiet
      have advanced := advanced_prepare spared unique prepared quiet
      rwa [Trace.events_append, guidedWork_append, Trace.workCount_events]

/-- An execution does no work twice and none that is done already, and what it does stays done. -/
theorem advanced_execution {w : World} {events : List Event} {uploads : List PendingUpload}
    (unique : (w.workflow.nodes.map Node.id).Nodup) (untold : guidedWork events = [])
    (waiting : uploads = pendingUploads (ancestors w.workflow.nodes w.workflow.edges t.output))
    (course : Course t ((t.proceed w uploads uploads.length none).after events) trace result stop)
    (quiet : ∀ i ∈ trace.interludes, i.Quiet) :
    w.workflow.Advanced lasting stop.workflow
        (uploadedWork uploads trace.interludes ++ guidedWork trace.events) ∧
      trace.workCount =
        (uploadedWork uploads trace.interludes ++ guidedWork trace.events).length := by
  obtain ⟨tail, rfl, begun⟩ := course.of_after
  rw [Trace.interludes_append, Trace.interludes_last, List.nil_append] at quiet ⊢
  rw [Trace.events_append, Trace.events_last, guidedWork_append, untold, List.nil_append,
    Trace.workCount_events]
  subst waiting
  obtain ⟨w', rest, failure, later, uploaded, counted, told, calm⟩ :=
    begun.worked_uploads (fun _ => slot_of_mem_pendingUploads) quiet
  rw [told]
  obtain ⟨advanced, guides_counted⟩ :=
    advanced_uploaded spared (uploaded.ids ▸ unique) later calm
  have sub := uploadedWork_sublist
    (pendingUploads (ancestors w.workflow.nodes w.workflow.edges t.output)) tail.interludes
  rw [List.length_append, counted, guides_counted]
  refine ⟨⟨(uploaded.weaken fun _ _ => trivial).trans advanced.toWorked, ?_, fun x hx => ?_⟩, rfl⟩
  · refine List.nodup_append.2
      ⟨sub.nodup (works_pendingUploads_nodup (nodup_search _ _ _ _)), advanced.once, ?_⟩
    intro x hx y hy same
    obtain ⟨p, -, rfl⟩ := List.mem_map.1 (sub.subset hx)
    obtain ⟨node, rfl⟩ := guide_of_mem_guidedWork hy
    exact p.work_ne_guide node same
  · obtain hx | hx := List.mem_append.1 hx
    · obtain ⟨p, hp, rfl⟩ := List.mem_map.1 (sub.subset hx)
      exact not_has_pending unique hp
    · obtain ⟨node, rfl⟩ := guide_of_mem_guidedWork hx
      exact fun had => advanced.fresh _ hx (uploaded.kept _ trivial had)

end

end Course

end ImageGraph
