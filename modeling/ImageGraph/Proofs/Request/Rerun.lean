import ImageGraph.Execution.Cycle
import ImageGraph.Proofs.Request.Guide
import ImageGraph.Proofs.Request.TextToImage

/-! A text-to-image request made again. The first time the guides that are missing come from
preprocessing steps and are added to the main call; written onto their nodes, they are there the
next time. Both ways lead to the same call. -/

namespace ImageGraph

open Json

private theorem unread : "guideUrl" ∉ promptKeys := by simp [promptKeys]

/-- Calls that differ at most in the order of their control images. -/
structure MainStep.SameUpToOrder (a b : MainStep) : Prop where
  method : a.method = b.method
  params : ∀ key ≠ "controlnet", a.params.get? key = b.params.get? key
  controls : ∃ xs ys : List ControlEntry, xs.Perm ys ∧
    a.params.get? "controlnet" = nonempty? (xs.map ControlEntry.toJson) ∧
    b.params.get? "controlnet" = nonempty? (ys.map ControlEntry.toJson)

/-- Each guide with the node of its step. -/
def guidesOf (steps : List PreprocessStep) (urls : List String) : List (NodeId × String) :=
  (steps.map PreprocessStep.nodeId).zip urls

theorem fst_guidesOf {steps : List PreprocessStep} {urls : List String}
    (h : urls.length = steps.length) :
    (guidesOf steps urls).map Prod.fst = steps.map PreprocessStep.nodeId :=
  List.map_fst_zip (Nat.le_of_eq (by rw [List.length_map, h]))

namespace Lineage

variable {l : Lineage} {controls : List (Node × Control)} {found : List Contribution}

/-- Once the guide of its step is there, a node contributes the entry that the step would become. -/
theorem contribution_withGuide {n : Node} {c : Control} {s : PreprocessStep} {url : String}
    (h : l.contribution n c = .ok (.step s)) (filled : Text.allBlank url = false) :
    l.contribution (n.withGuide url) c = .ok (.entry (s.entry url)) := by
  obtain ⟨model, preprocessor, source, hm, hp, rfl⟩ := contribution_eq_step h
  have strength : (n.withGuide url).number? "strength" = n.number? "strength" :=
    (n.withGuide_agrees unread url).number? (by simp [promptKeys])
  rw [contribution, hm, hp, n.text?_withGuide filled, strength]
  rfl

/-- The control-nets with the guides that are given for them. -/
def guidedControls (guides : List (NodeId × String)) (controls : List (Node × Control)) :
    List (Node × Control) :=
  controls.map fun p => (p.1.guided guides, p.2)

theorem guidedControls_cons {id : NodeId} (h : id ∉ controls.map fun p => p.1.id) (url : String)
    (guides : List (NodeId × String)) :
    guidedControls ((id, url) :: guides) controls = guidedControls guides controls := by
  refine List.map_congr_left fun p hp => ?_
  have other : p.1.id ≠ id := fun same => h (List.mem_map.2 ⟨p, hp, same⟩)
  rw [Node.guided_cons_of_ne other]

theorem contributions_guided {urls : List String} (unique : (controls.map fun p => p.1.id).Nodup)
    (h : l.contributions controls = .ok found)
    (one_each : urls.length = (found.filterMap Contribution.step?).length)
    (filled : ∀ url ∈ urls, Text.allBlank url = false) :
    ∃ again,
      l.contributions (guidedControls
        (guidesOf (found.filterMap Contribution.step?) urls) controls) = .ok again ∧
      again.filterMap Contribution.step? = [] ∧
      (again.filterMap Contribution.entry?).Perm (found.filterMap Contribution.entry? ++
        (found.filterMap Contribution.step?).zipWith PreprocessStep.entry urls) := by
  induction controls generalizing found urls with
  | nil =>
    cases h
    exact ⟨[], rfl, rfl, by simp⟩
  | cons p rest ih =>
    obtain ⟨n, c⟩ := p
    obtain ⟨first, later, hf, hr, rfl⟩ := contributions_cons_eq_ok.1 h
    obtain ⟨fresh, unique⟩ := List.nodup_cons.1 unique
    -- A node without a step is no step's node, so it contributes the same again.
    have kept (same : urls.length = (later.filterMap Contribution.step?).length) :
        n.guided (guidesOf (later.filterMap Contribution.step?) urls) = n := by
      refine Node.guided_of_notMem fun hn => fresh ?_
      rw [fst_guidesOf same] at hn
      exact (steps_sublist hr).subset hn
    cases first with
    | entry e =>
      obtain ⟨again, ha, none_left, entries⟩ := ih unique hr one_each filled
      refine ⟨.entry e :: again, ?_, none_left, entries.cons e⟩
      refine contributions_cons_eq_ok.2 ⟨.entry e, again, ?_, ha, rfl⟩
      exact (congrArg (l.contribution · c) (kept one_each)).trans hf
    | nothing =>
      obtain ⟨again, ha, none_left, entries⟩ := ih unique hr one_each filled
      refine ⟨.nothing :: again, ?_, none_left, entries⟩
      refine contributions_cons_eq_ok.2 ⟨.nothing, again, ?_, ha, rfl⟩
      exact (congrArg (l.contribution · c) (kept one_each)).trans hf
    | step s =>
      obtain ⟨_, _, _, -, -, hs⟩ := contribution_eq_step hf
      have own : s.nodeId = n.id := congrArg PreprocessStep.nodeId hs
      cases urls with
      | nil => cases one_each
      | cons url urls =>
        obtain ⟨here, filled⟩ := List.forall_mem_cons.1 filled
        obtain ⟨again, ha, none_left, entries⟩ := ih unique hr (Nat.succ.inj one_each) filled
        have guides : guidesOf ((Contribution.step s :: later).filterMap Contribution.step?)
            (url :: urls) = (n.id, url) :: guidesOf (later.filterMap Contribution.step?) urls := by
          rw [← own]
          rfl
        refine ⟨.entry (s.entry url) :: again, ?_, none_left,
          (entries.cons (s.entry url)).trans List.perm_middle.symm⟩
        rw [guides, guidedControls, List.map_cons, ← guidedControls, guidedControls_cons fresh,
          Node.guided_cons_self]
        exact contributions_cons_eq_ok.2 ⟨_, again, contribution_withGuide hf here, ha, rfl⟩

theorem mainWith_sameUpToOrder (l : Lineage) {xs ys : List ControlEntry} (h : xs.Perm ys) :
    (l.mainWith xs).SameUpToOrder (l.mainWith ys) where
  method := l.mainWith_method xs ys
  params _ hk := l.mainWith_others xs ys hk
  controls := ⟨xs, ys, h, l.mainWith_controls xs, l.mainWith_controls ys⟩

/-- Guides have no part in a request but through what the control-nets contribute. -/
theorem Prompts.of_guided (h : l.Prompts found) {guides : List (NodeId × String)}
    {again : List Contribution}
    (ha : l.contributions (guidedControls guides l.controls) = .ok again) :
    let there := l.mapNodes (Node.guided guides)
    there.Prompts again ∧ there.withContributions again = l.withContributions again := by
  intro there
  have alike : there.Alike promptKeys l := l.alike_mapNodes (Node.guided_agrees unread guides)
  have main : there.mainWith = l.mainWith := by
    funext entries
    unfold mainWith
    rw [alike.generativeParams, alike.seedImage?]
  refine ⟨⟨?_, ?_, ?_⟩, ?_⟩
  · rw [alike.unsupported?, h.supported]
  · rw [alike.flow, h.flow]
  · rw [controls_mapNodes]
    exact ha
  · rw [withContributions, withContributions, main]

theorem Prompts.guided (h : l.Prompts found) (unique : (l.controls.map fun p => p.1.id).Nodup)
    {urls : List String} (one_each : urls.length = (l.withContributions found).preprocess.length)
    (filled : ∀ url ∈ urls, Text.allBlank url = false) :
    let steps := (l.withContributions found).preprocess
    let there := l.mapNodes (Node.guided (guidesOf steps urls))
    ∃ again, there.Prompts again ∧ (there.withContributions again).preprocess = [] ∧
      (there.withContributions again).main.SameUpToOrder
        ((l.withContributions found).main.withControls
          (steps.zipWith PreprocessStep.entry urls)) := by
  intro steps there
  obtain ⟨again, ha, none_left, entries⟩ :=
    contributions_guided unique h.contributed one_each filled
  obtain ⟨prompted, same⟩ := h.of_guided ha
  have main : (there.withContributions again).main = (l.withContributions again).main :=
    congrArg Request.main same
  refine ⟨again, prompted, none_left, ?_⟩
  rw [main, withContributions, withContributions, withControls_mainWith]
  exact l.mainWith_sameUpToOrder entries

end Lineage

namespace Workflow

/-- A text-to-image request after guides have been written: whatever the control-nets contribute
with them, the request is made from that and else as before. -/
theorem compile_guided {w : Workflow} {settings : Settings} {target : NodeId} {request : Request}
    (unique : (w.nodes.map Node.id).Nodup) (compiled : w.compile settings target = .ok request)
    (flow : request.flow = .textToImage) :
    ∃ (l : Lineage) (found : List Contribution), (l.controls.map fun p => p.1.id).Nodup ∧
      l.contributions l.controls = .ok found ∧ request = l.withContributions found ∧
      ∀ guides : List (NodeId × String), (guides.map Prod.fst).Nodup → ∀ again,
        l.contributions (Lineage.guidedControls guides l.controls) = .ok again →
        (w.withGuides guides).compile settings target = .ok (l.withContributions again) := by
  obtain ⟨found, made⟩ := compile_eq_ok.1 compiled
  obtain ⟨contributed, prompts, rfl⟩ := Lineage.exists_prompts made flow
  have once := Lineage.controls_nodup (ids_lineageOf_nodup settings w.nodes w.edges target)
  refine ⟨_, contributed, once, prompts.contributed, rfl, fun guides each again ha => ?_⟩
  obtain ⟨prompted, same⟩ := prompts.of_guided ha
  have agree := Node.guided_agrees unread guides
  have roles (n : Node) : (n.guided guides).role = n.role :=
    (agree n).role (by simp [promptKeys]) (by simp [promptKeys]) (by simp [promptKeys])
  rw [compile, edges_withGuides, nodes_withGuides unique each, compile_eq_ok,
    lineageOf_map (fun n => (agree n).id) roles, ancestors_map fun n => (agree n).id]
  exact ⟨fun none => found (List.map_eq_nil_iff.1 none), same ▸ prompted.request⟩

/-- A text-to-image request whose guides have been made and written onto their nodes is made again
without any steps: its call is the one that the guides were added to the first time, except that
the order of the control images may differ. -/
theorem compile_withGuides {w : Workflow} {settings : Settings} {target : NodeId}
    {request : Request} {urls : List String} (unique : (w.nodes.map Node.id).Nodup)
    (compiled : w.compile settings target = .ok request) (flow : request.flow = .textToImage)
    (one_each : urls.length = request.preprocess.length)
    (filled : ∀ url ∈ urls, Text.allBlank url = false) :
    ∃ again,
      (w.withGuides (guidesOf request.preprocess urls)).compile settings target = .ok again ∧
      again.flow = .textToImage ∧ again.preprocess = [] ∧
      again.main.SameUpToOrder
        (request.main.withControls (request.preprocess.zipWith PreprocessStep.entry urls)) := by
  obtain ⟨found, made⟩ := compile_eq_ok.1 compiled
  obtain ⟨contributed, prompts, rfl⟩ := Lineage.exists_prompts made flow
  have once := Lineage.controls_nodup (ids_lineageOf_nodup settings w.nodes w.edges target)
  obtain ⟨again, prompted, none_left, same⟩ := prompts.guided once one_each filled
  generalize hg : guidesOf _ urls = guides at prompted none_left same ⊢
  have nodes : (w.withGuides guides).nodes = w.nodes.map (Node.guided guides) := by
    refine nodes_withGuides unique ?_
    rw [← hg, fst_guidesOf one_each]
    exact (Lineage.steps_sublist prompts.contributed).nodup once
  refine ⟨_, ?_, rfl, none_left, same⟩
  have agree := Node.guided_agrees unread guides
  have roles (n : Node) : (n.guided guides).role = n.role :=
    (agree n).role (by simp [promptKeys]) (by simp [promptKeys]) (by simp [promptKeys])
  rw [compile, edges_withGuides, nodes, compile_eq_ok, lineageOf_map (fun n => (agree n).id) roles,
    ancestors_map fun n => (agree n).id]
  exact ⟨fun none => found (List.map_eq_nil_iff.1 none), prompted.request⟩

/-- A control-net whose guide is made stands before one whose guide is given, so the two calls list
their entries in different orders. -/
theorem compile_withGuides_depth :
    let w : Workflow := ⟨"flow", "",
      [⟨"out", "output", .null⟩, ⟨"depth", "control-net-depth", .obj [("imageId", .str "source")]⟩,
        ⟨"pose", "control-net-pose", .obj [("guideUrl", .str "given")]⟩],
      [⟨"1", "depth", "out"⟩, ⟨"2", "pose", "out"⟩]⟩
    ∃ first again, w.compile {} "out" = .ok first ∧
      first.preprocess.map PreprocessStep.nodeId = ["depth"] ∧
      (w.withGuides (guidesOf first.preprocess ["made"])).compile {} "out" = .ok again ∧
      again.main.SameUpToOrder
        (first.main.withControls (first.preprocess.zipWith PreprocessStep.entry ["made"])) := by
  intro w
  have shape : (w.compile {} "out").toOption.map
      (fun r => (r.flow, r.preprocess.map PreprocessStep.nodeId)) =
        some (.textToImage, ["depth"]) := by
    decide +kernel
  cases compiled : w.compile {} "out" with
  | error e => rw [compiled] at shape; cases shape
  | ok first =>
    rw [compiled] at shape
    obtain ⟨flow, steps⟩ := Prod.mk.inj (Option.some.inj shape)
    have one : ["made"].length = first.preprocess.length := by
      rw [← List.length_map PreprocessStep.nodeId, steps]
      rfl
    obtain ⟨again, compiled_again, -, -, same⟩ :=
      compile_withGuides (by decide) compiled flow one (by decide +kernel)
    exact ⟨first, again, rfl, steps, compiled_again, same⟩

end Workflow

namespace Trigger

/-- Answers preprocessing calls with guides for as long as such calls are made. -/
def answerGuides (t : Trigger) (turn : Turn) (urls : List String) : Turn :=
  urls.foldl (fun turn url =>
    match turn.progress with
    | .waiting (.preprocessing record step rest main) =>
      t.resume turn.world (.preprocessing record step rest main) (.ok url)
    | _ => turn) turn

/-- An execution that is left to itself writes each guide onto the node of its step, and makes the
main call with an entry for each. -/
theorem answerGuides_next (t : Trigger) (w : World) (events : List Event) (record : RecordId)
    (main : MainStep) {steps : List PreprocessStep} {urls : List String}
    (one_each : urls.length = steps.length) :
    let last := t.answerGuides ⟨w, events, .waiting (next record steps main)⟩ urls
    last.world = { w with workflow := w.workflow.withGuides (guidesOf steps urls) } ∧
      last.progress = .waiting (.generating record
        (main.withControls (steps.zipWith PreprocessStep.entry urls))) := by
  induction steps generalizing w events main urls with
  | nil =>
    cases List.eq_nil_of_length_eq_zero one_each
    exact ⟨rfl, rfl⟩
  | cons step rest ih =>
    cases urls with
    | nil => cases one_each
    | cons url urls =>
      exact ih (w.update step.nodeId (guidePatch url)) _ (main.addControl (step.entry url))
        (Nat.succ.inj one_each)

end Trigger

end ImageGraph
