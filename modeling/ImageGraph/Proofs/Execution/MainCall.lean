import ImageGraph.Proofs.Execution.Write
import ImageGraph.Proofs.Request.Rerun
import ImageGraph.Proofs.Request.Signature

/-! The main call of an execution. Guides are made one after the other, each for its own step, and
written onto its node before the next call; the main call is the compiled one with a control image
for each of them behind those that it lists already. -/

namespace ImageGraph

open Json

/-- The control images that a call lists. -/
def MainStep.controls (m : MainStep) : List Json :=
  ((m.params.get? "controlnet").bind array?).getD []

/-- What the guide of a step adds to the control images of a call. -/
def PreprocessStep.condition (step : PreprocessStep) (url : String) : Json :=
  .obj [("image", .str url), ("model", .str step.model), ("strength", .ofFloat step.strength),
    ("type", .str step.control.name)]

/-- A call is another one with the control images of guides, behind those that it lists. Without
any there is no list. -/
structure MainStep.Conditioned (main compiled : MainStep)
    (made : List (PreprocessStep × String)) : Prop where
  method : main.method = compiled.method
  others : ∀ key ≠ "controlnet", main.params.get? key = compiled.params.get? key
  listed : compiled.params.get? "controlnet" = nonempty? compiled.controls
  controls : main.params.get? "controlnet" =
    nonempty? (compiled.controls ++ made.map fun p => p.1.condition p.2)

/-- Guides made for steps, one after the other: each call finds the world that the one before has
left, with the URL that it brought on the node of its step. -/
inductive Guided : World → List PreprocessStep → List String → List Interlude → World → Prop where
  | nil (w : World) : Guided w [] [] [] w
  | cons {step : PreprocessStep} {steps : List PreprocessStep} {url : String}
      {urls : List String} {i : Interlude} {guides : List Interlude} {stop : World} :
      i.call = step.call → i.guideUrl? = some url →
      Guided (i.after.update step.nodeId (guidePatch url)) steps urls guides stop →
      Guided i.before (step :: steps) (url :: urls) (i :: guides) stop

/-! ### Control images of a call -/

namespace MainStep

variable {m : MainStep} {entries : List ControlEntry}

theorem get?_addControl (m : MainStep) (e : ControlEntry) (key : String) :
    (m.addControl e).params.get? key =
      if key = "controlnet" then some (.arr (m.controls ++ [e.toJson])) else m.params.get? key := by
  rw [addControl, Object.get?_insert]
  rfl

theorem controls_addControl (m : MainStep) (e : ControlEntry) :
    (m.addControl e).controls = m.controls ++ [e.toJson] := by
  rw [controls, get?_addControl, if_pos rfl]
  rfl

theorem method_withControls (m : MainStep) (entries : List ControlEntry) :
    (m.withControls entries).method = m.method := by
  induction entries generalizing m with
  | nil => rfl
  | cons e rest ih => exact ih (m.addControl e)

theorem others_withControls (m : MainStep) (entries : List ControlEntry) {key : String}
    (h : key ≠ "controlnet") : (m.withControls entries).params.get? key = m.params.get? key := by
  induction entries generalizing m with
  | nil => rfl
  | cons e rest ih =>
    calc (m.withControls (e :: rest)).params.get? key
        = (m.addControl e).params.get? key := ih (m.addControl e)
      _ = m.params.get? key := by rw [get?_addControl, if_neg h]

/-- Each entry comes behind those that are listed before it. -/
theorem get?_withControls (listed : m.params.get? "controlnet" = nonempty? m.controls)
    (entries : List ControlEntry) :
    (m.withControls entries).params.get? "controlnet" =
      nonempty? (m.controls ++ entries.map ControlEntry.toJson) := by
  induction entries generalizing m with
  | nil => rw [List.map_nil, List.append_nil, ← listed]; rfl
  | cons e rest ih =>
    have added : (m.addControl e).params.get? "controlnet" =
        nonempty? (m.addControl e).controls := by
      rw [controls_addControl, get?_addControl, if_pos rfl]
      cases m.controls <;> rfl
    calc ((m.addControl e).withControls rest).params.get? "controlnet"
        = nonempty? ((m.addControl e).controls ++ rest.map ControlEntry.toJson) := ih added
      _ = nonempty? (m.controls ++ (e :: rest).map ControlEntry.toJson) := by
        rw [controls_addControl, List.append_assoc, List.singleton_append, List.map_cons]

theorem conditioned_withControls (listed : m.params.get? "controlnet" = nonempty? m.controls)
    (steps : List PreprocessStep) (urls : List String) :
    (m.withControls (steps.zipWith PreprocessStep.entry urls)).Conditioned m (steps.zip urls) where
  method := m.method_withControls _
  others _ h := m.others_withControls _ h
  listed := listed
  controls := by
    rw [get?_withControls listed, List.map_zipWith, List.zip, List.map_zipWith]
    rfl

end MainStep

/-- A request lists its control images, if it has any, and holds nothing else in their place. -/
theorem Lineage.request_listed {l : Lineage} {r : Request} (ok : l.request = .ok r) :
    r.main.params.get? "controlnet" = nonempty? r.main.controls := by
  have fits := (request_fits ok).main.params
  rw [MainStep.controls]
  cases given : r.main.params.get? "controlnet" with
  | none => rfl
  | some v =>
    obtain ⟨p, hp, key, holds⟩ := fits.known _ v given
    have list : ∀ q ∈ Purpose.all, ∀ p ∈ q.params, p.key = "controlnet" → p.kind = .list := by
      decide
    rw [list _ (Purpose.mem_all _) p hp key] at holds
    obtain ⟨first, rest, rfl⟩ := holds
    rfl

/-! ### Guides on their nodes -/

namespace Workflow

variable {w : Workflow} {guides : List (NodeId × String)}

theorem attribute?_withGuides_of_notMem {id : NodeId} (h : id ∉ guides.map Prod.fst)
    (w : Workflow) (key : String) :
    (w.withGuides guides).attribute? id key = w.attribute? id key := by
  induction guides generalizing w with
  | nil => rfl
  | cons guide rest ih =>
    rw [List.map_cons, List.mem_cons, not_or] at h
    obtain ⟨other, later⟩ := h
    calc (w.withGuides (guide :: rest)).attribute? id key
        = (w.update guide.1 (guidePatch guide.2)).attribute? id key := ih later _
      _ = w.attribute? id key := by
        simp only [attribute?, node?_update, if_neg other, Option.map_id_fun', id_eq]

/-- Where no node gets two guides, each node has its own in the end. -/
theorem attribute?_withGuides (once : (guides.map Prod.fst).Nodup)
    (known : ∀ guide ∈ guides, (w.node? guide.1).isSome) :
    ∀ guide ∈ guides,
      (w.withGuides guides).attribute? guide.1 "guideUrl" = some (.str guide.2) := by
  induction guides generalizing w with
  | nil => simp
  | cons guide rest ih =>
    obtain ⟨fresh, once⟩ := List.nodup_cons.1 once
    obtain ⟨here, later⟩ := List.forall_mem_cons.1 known
    have still : ∀ other ∈ rest,
        ((w.update guide.1 (guidePatch guide.2)).node? other.1).isSome := by
      intro other ho
      rw [node?_update, Option.isSome_map]
      exact later other ho
    refine List.forall_mem_cons.2 ⟨?_, ih once still⟩
    obtain ⟨n, hn⟩ := Option.isSome_iff_exists.1 here
    calc (w.withGuides (guide :: rest)).attribute? guide.1 "guideUrl"
        = (w.update guide.1 (guidePatch guide.2)).attribute? guide.1 "guideUrl" :=
          attribute?_withGuides_of_notMem fresh _ _
      _ = (n.withGuide guide.2).attribute? "guideUrl" := by
        rw [attribute?, node?_update, hn, Option.map_some, if_pos rfl, Option.bind_some]
        rfl
      _ = some (.str guide.2) := by rw [Node.attribute?_withGuide, if_pos rfl]

end Workflow

namespace Guided

variable {w stop : World} {steps : List PreprocessStep} {urls : List String}
  {guides : List Interlude}

theorem length (h : Guided w steps urls guides stop) : urls.length = steps.length := by
  induction h with
  | nil => rfl
  | cons _ _ _ ih => rw [List.length_cons, List.length_cons, ih]

/-- Where nobody else writes, the guides are all that is new. -/
theorem workflow (h : Guided w steps urls guides stop) (still : ∀ i ∈ guides, i.Still) :
    stop.workflow = w.workflow.withGuides (guidesOf steps urls) := by
  induction h with
  | nil => rfl
  | cons _ _ _ ih =>
    obtain ⟨here, later⟩ := List.forall_mem_cons.1 still
    rw [ih later, ← here.workflow]
    rfl

end Guided

/-! ### The calls of an execution -/

namespace Course

variable {t : Trigger} {turn : Turn} {trace : Trace} {result : Except ExecutionError Record}
  {stop : World} {id : RecordId} {steps : List PreprocessStep} {main : MainStep}

/-- The main call is the last one. It comes when all guides are made, with an entry for each. -/
theorem run_main {i : Interlude} {m : MainStep} (course : Course t turn trace result stop)
    (hp : turn.progress = .waiting (Trigger.next id steps main)) (hi : i ∈ trace.interludes)
    (call : i.call = .main m) :
    ∃ urls guides, trace.interludes = guides ++ [i] ∧
      Guided turn.world steps urls guides i.before ∧
      m = main.withControls (steps.zipWith PreprocessStep.entry urls) := by
  -- The rest of the steps starts from a main call with one more entry.
  induction steps generalizing main turn trace with
  | nil =>
    obtain ⟨answer, found, rest, rfl, later⟩ := course.of_waiting hp
    obtain ⟨final, rfl, -⟩ := later.main_order
    rw [Trace.interludes_turn] at hi ⊢
    obtain rfl := List.mem_singleton.1 hi
    cases call
    exact ⟨[], [], rfl, .nil _, rfl⟩
  | cons step rest ih =>
    obtain ⟨answer, found, tail, rfl, later⟩ := course.of_waiting hp
    rw [Trace.interludes_turn] at hi ⊢
    obtain rfl | mem := List.mem_cons.1 hi
    · cases call
    cases answer with
    | error e =>
      rw [(later.fail_writes found (some id) (.preprocessing step.nodeId e)).1] at mem
      exact (List.not_mem_nil mem).elim
    | ok url =>
      obtain ⟨urls, guides, split, guided, rfl⟩ := ih later rfl mem
      refine ⟨url :: urls, ⟨step.call, turn.world, .ok url, found⟩ :: guides, ?_, ?_, rfl⟩
      · rw [split]
        rfl
      · exact .cons (i := ⟨step.call, turn.world, .ok url, found⟩) rfl rfl guided

/-- The main call comes unless a guide fails. -/
theorem exists_main (course : Course t turn trace result stop)
    (hp : turn.progress = .waiting (Trigger.next id steps main))
    (succeeded : ∀ i ∈ trace.interludes, i.Succeeded) :
    ∃ i ∈ trace.interludes, ∃ m, i.call = .main m := by
  obtain ⟨guides, mains, events, first, later, split, -, -, order, -⟩ := course.run_order hp
  rw [split] at succeeded ⊢
  cases order with
  | halted made _ _ lost => exact absurd (succeeded _ (by simp)) lost
  | @completed guides last _ _ _ call => exact ⟨last, by simp, _, call⟩

/-- What leads up to the main call: the graph compiles, and the guides are made from there. -/
theorem prepare_main {w : World} {i : Interlude} {m : MainStep}
    (course : Course t (t.prepare w) trace result stop) (hi : i ∈ trace.interludes)
    (call : i.call = .main m) :
    ∃ request urls begun guides, w.compile t.output = .ok request ∧
      begun.workflow = w.workflow ∧ trace.interludes = guides ++ [i] ∧
      Guided begun request.preprocess urls guides i.before ∧
      m = request.main.withControls (request.preprocess.zipWith PreprocessStep.entry urls) := by
  cases hc : w.compile t.output with
  | error cause =>
    rw [Trigger.prepare_error hc] at course
    rw [(course.fail_writes _ _ _).1] at hi
    exact (List.not_mem_nil hi).elim
  | ok request =>
    rw [Trigger.prepare_ok hc] at course
    obtain ⟨urls, guides, split, guided, same⟩ := course.run_main rfl hi call
    exact ⟨request, urls, w.opened t request, guides, rfl, rfl, split, guided, same⟩

end Course

/-- Each step of a request has a node of its own in the workflow that was compiled. -/
theorem World.steps_named {w : World} {output : NodeId} {request : Request}
    (ok : w.compile output = .ok request) :
    (request.preprocess.map PreprocessStep.nodeId).Nodup ∧
      ∀ step ∈ request.preprocess, (w.workflow.node? step.nodeId).isSome := by
  obtain ⟨once, known⟩ := Lineage.preprocess_once (compile_eq_ok.1 ok).2 (ids_lineageOf_nodup ..)
  refine ⟨once, fun step hs => ?_⟩
  obtain ⟨a, ha, own, -⟩ := known step hs
  obtain ⟨n, hn, rfl⟩ := List.mem_map.1 ha
  have there : n ∈ w.workflow.nodes := nodeNamed?_mem (nodeNamed?_of_mem_search hn)
  exact List.find?_isSome.2 ⟨n, there, beq_iff_eq.2 own⟩

/-- Where nobody else writes, the guides of a request are on their nodes when all are made. -/
theorem Guided.written {w begun stop : World} {output : NodeId} {request : Request}
    {urls : List String} {guides : List Interlude}
    (h : Guided begun request.preprocess urls guides stop) (ok : w.compile output = .ok request)
    (same : begun.workflow = w.workflow) (still : ∀ i ∈ guides, i.Still) :
    ∀ p ∈ request.preprocess.zip urls,
      stop.workflow.attribute? p.1.nodeId "guideUrl" = some (.str p.2) := by
  intro p hp
  obtain ⟨once, known⟩ := World.steps_named ok
  have ids := fst_guidesOf h.length
  rw [h.workflow still, same]
  refine Workflow.attribute?_withGuides (ids ▸ once) (fun guide hg => ?_)
    (p.1.nodeId, p.2) ?_
  · have mem : guide.1 ∈ request.preprocess.map PreprocessStep.nodeId :=
      ids ▸ List.mem_map_of_mem hg
    obtain ⟨step, hs, own⟩ := List.mem_map.1 mem
    exact own ▸ known step hs
  · rw [guidesOf, List.zip_map_left]
    exact List.mem_map_of_mem hp

namespace Surroundings

variable {σ : Type}

/-- An execution that makes its main call has been let in, has made its uploads, and has gone on to
compile what they left. -/
theorem prepared_of_main (e : Surroundings σ) {output : NodeId} {w : World} {s : σ} {i : Interlude}
    {main : MainStep} (hi : i ∈ (e.trace output w s).interludes) (call : i.call = .main main) :
    let seen := (e.trace output w s).interludes
    let sent := seen.take (w.uploadsFor output).length
    ∃ (entered : World) (last : Trace), w.enter? output = some entered ∧
      Sent entered (w.uploadsFor output) sent ∧ i ∈ last.interludes ∧
      seen = sent ++ last.interludes ∧
      Course ⟨w.workflow.id, output⟩
        (Trigger.prepare ⟨w.workflow.id, output⟩ (entered.settled (w.uploadsFor output) sent)) last
        (e.execute output w s).1 (e.execute output w s).2.1 := by
  intro seen sent
  cases h : w.enter? output with
  | none =>
    have course := (e.execute_observed output w s).2
    rw [World.trigger_rejected h] at course
    rw [(course.of_returned rfl).1] at hi
    exact (List.not_mem_nil hi).elim
  | some entered =>
    obtain ⟨linked, rest, failure, tail, -, course⟩ := (e.execute_observed output w s).2.uploads h
    have split : seen = sent ++ rest.interludes := by
      rw [tail]
      exact (List.take_append_drop _ _).symm
    have upload : i ∉ sent := by
      intro mem
      have called := List.mem_map_of_mem (f := Interlude.call) mem
      rw [linked.calls, call] at called
      obtain ⟨p, -, same⟩ := List.mem_map.1 called
      cases same
    have mem : i ∈ rest.interludes := (List.mem_append.1 (split ▸ hi)).resolve_left upload
    cases failure with
    | some cause =>
      rw [(course.fail_writes _ none cause).1] at mem
      exact (List.not_mem_nil mem).elim
    | none =>
      obtain ⟨last, same, prepared⟩ := course.of_proceed_done
      rw [same] at mem split
      exact ⟨entered, last, rfl, linked, mem, split, prepared⟩

/-- Whenever an execution makes its main call, all that was to be uploaded has been, the request has
been compiled, and the guides of its steps have been made in order, each written onto its node
before the next call. The call is the last one and the only one of its kind. It has the compiled
method and parameters, with one control image for each guide behind those that were compiled: the
URL that the call for its step brought, with the strength, the model and the type of that step.
Where nobody else writes, every guide is on its node by then. -/
theorem execute_main_call (e : Surroundings σ) {output : NodeId} {w : World} {s : σ} {i : Interlude}
    {main : MainStep} (hi : i ∈ (e.trace output w s).interludes) (call : i.call = .main main) :
    let seen := (e.trace output w s).interludes
    ∃ request urls begun sent guides,
      (w.uploaded output seen).compile output = .ok request ∧
      begun.workflow = (w.uploaded output seen).workflow ∧
      seen = sent ++ guides ++ [i] ∧
      sent.map Interlude.call = (w.uploadsFor output).map PendingUpload.call ∧
      Guided begun request.preprocess urls guides i.before ∧
      main.Conditioned request.main (request.preprocess.zip urls) ∧
      (e.Still → ∀ p ∈ request.preprocess.zip urls,
        i.before.workflow.attribute? p.1.nodeId "guideUrl" = some (.str p.2)) := by
  intro seen
  obtain ⟨entered, last, h, linked, mem, split, prepared⟩ := e.prepared_of_main hi call
  obtain ⟨workflow, compile⟩ := World.settled_entered h (w.uploadsFor output)
    (seen.take (w.uploadsFor output).length)
  obtain ⟨request, urls, begun, guides, compiled, same, made, guided, rfl⟩ :=
    prepared.prepare_main mem call
  rw [made, ← List.append_assoc] at split
  refine ⟨request, urls, begun, _, guides, ?_, ?_, split, linked.calls, guided, ?_,
    fun still => ?_⟩
  · rw [World.uploaded, ← compile]
    exact compiled
  · rw [same, workflow]
    rfl
  · exact MainStep.conditioned_withControls
      (Lineage.request_listed (compile_eq_ok.1 compiled).2) _ _
  · refine guided.written compiled same fun j hj => still.of_mem output w s j ?_
    rw [split]
    exact List.mem_append_left _ (List.mem_append_right _ hj)

/-- The main call comes if all calls succeed and the graph that the uploads leave compiles. -/
theorem exists_main_call (e : Surroundings σ) {output : NodeId} {w entered : World} (s : σ)
    (h : w.enter? output = some entered)
    (succeeded : ∀ i ∈ (e.trace output w s).interludes, i.Succeeded)
    (compiles : ((w.uploaded output (e.trace output w s).interludes).compile output).isOk) :
    ∃ i ∈ (e.trace output w s).interludes, ∃ main, i.call = .main main := by
  obtain ⟨-, rest, failure, tail, sound, course⟩ := (e.execute_observed output w s).2.uploads h
  obtain rfl := sound.2 fun i hi => succeeded i (List.mem_of_mem_take hi)
  obtain ⟨request, compiled⟩ := exists_ok_of_isOk compiles
  rw [World.uploaded, ← (World.settled_entered h _ _).2] at compiled
  obtain ⟨last, same, prepared⟩ := course.of_proceed_done
  rw [same] at tail
  have inside : ∀ i ∈ last.interludes, i ∈ (e.trace output w s).interludes := fun i hi =>
    List.mem_of_mem_drop (tail ▸ hi)
  rw [Trigger.prepare_ok compiled] at prepared
  obtain ⟨i, hi, main, call⟩ := prepared.exists_main rfl fun i hi => succeeded i (inside i hi)
  exact ⟨i, inside i hi, main, call⟩

/-- One control-net has a guide already and lists it; the other has it made. -/
theorem execute_main_call_mixed :
    let w : World := {
      settings := {}
      workflow := ⟨"flow", "", [⟨"out", "output", .null⟩,
        ⟨"pose", "control-net-pose", .obj [("guideUrl", .str "/pose")]⟩,
        ⟨"depth", "control-net-depth", .obj [("imageId", .str "1")]⟩],
        [⟨"1", "pose", "out"⟩, ⟨"2", "depth", "out"⟩]⟩
      recordName := toString }
    let e : Surroundings Unit := {
      answer c w s := match c with
        | .upload _ => (.ok ⟨"2", "/2"⟩, w, s)
        | .preprocess _ _ => (.ok "/depth", w, s)
        | .main _ => (.ok .null, w, s)
      publish _ s := (.ok (), s) }
    ∃ i ∈ (e.trace "out" w ()).interludes, ∃ main request step url,
      i.call = .main main ∧ w.compile "out" = .ok request ∧ request.preprocess = [step] ∧
      request.main.controls.length = 1 ∧ main.Conditioned request.main [(step, url)] ∧
      i.before.workflow.attribute? step.nodeId "guideUrl" = some (.str url) := by
  intro w e
  have still : e.Still := fun c w s => by cases c <;> exact ⟨rfl, rfl⟩
  have uploads : w.uploadsFor "out" = [] := by decide +kernel
  have compiled : (w.compile "out").toOption.map
      (fun r => (r.preprocess.length, r.main.controls.length)) = some (1, 1) := by decide +kernel
  have untouched (seen : List Interlude) : w.uploaded "out" seen = w := by
    rw [World.uploaded, uploads]
    rfl
  obtain ⟨request, ok, lengths⟩ : ∃ request, w.compile "out" = .ok request ∧
      (request.preprocess.length, request.main.controls.length) = (1, 1) := by
    cases hc : w.compile "out" <;> rw [hc] at compiled
    · cases compiled
    · exact ⟨_, rfl, Option.some.inj compiled⟩
  obtain ⟨one, listed⟩ := Prod.mk.inj lengths
  have succeeded : ∀ i ∈ (e.trace "out" w ()).interludes, i.Succeeded := fun i hi =>
    of_mem_interludes (P := Interlude.Succeeded) (fun c w s => by cases c <;> rfl) hi
  obtain ⟨i, hi, main, call⟩ :=
    e.exists_main_call () rfl succeeded (by rw [untouched, ok]; rfl)
  obtain ⟨again, urls, begun, sent, guides, same, -, -, -, guided, conditioned, written⟩ :=
    e.execute_main_call hi call
  rw [untouched, ok] at same
  cases same
  obtain ⟨step, steps⟩ := List.length_eq_one_iff.1 one
  obtain ⟨url, rfl⟩ := List.length_eq_one_iff.1 (guided.length.trans one)
  rw [steps] at conditioned written
  exact ⟨i, hi, main, request, step, url, call, ok, steps, listed, conditioned,
    written still (step, url) (List.mem_singleton.2 rfl)⟩

end Surroundings

end ImageGraph
