import ImageGraph.Proofs.Execution.Turn
import ImageGraph.Proofs.Request.Reading
import ImageGraph.Proofs.Request.TextToImage

/-! What no request depends on: the image data that a node holds locally, what an earlier run left
on a node, and of a target that is an output all but its role. Nodes that differ in nothing else
yield the same request or the same error. -/

namespace ImageGraph

open Json

/-- What a request reads, whatever its flow. -/
def requestKeys : List String :=
  promptKeys ++ ["guideUrl", "maskUrl", "maskId", "tag", "prompt", "creativity", "scale",
    "upscaleModel", "faceEnhance", "top", "right", "bottom", "left", "angle", "direction"]

namespace Node.AgreeOn

variable {n m : Node} (h : n.AgreeOn requestKeys m)
include h

theorem base : n.image? = m.image? :=
  h.image? (by simp [requestKeys, promptKeys]) (by simp [requestKeys, promptKeys])

theorem mask? : n.mask? = m.mask? :=
  h.remote? (by simp [requestKeys]) (by simp [requestKeys])

end Node.AgreeOn

namespace Lineage.Alike

variable {l m : Lineage} (h : l.Alike requestKeys m)
include h

theorem prompts : l.Alike promptKeys m :=
  h.mono (List.subset_append_left _ _)

theorem baseImage? : l.baseImage? = m.baseImage? :=
  findSome?_related h.candidates fun _ _ agree => agree.node.base

theorem requireBase (flow : String) : l.requireBase flow = m.requireBase flow := by
  rw [Lineage.requireBase, Lineage.requireBase, h.baseImage?]

/-! ### Prompts -/

section

variable {n n' : Node} (agree : n.AgreeOn requestKeys n')
include agree

theorem promptFor? : l.promptFor? n = m.promptFor? n' := by
  rw [Lineage.promptFor?, Lineage.promptFor?, h.prompts.prompt?,
    agree.text? (by simp [requestKeys])]

/-! ### Tools -/

theorem withToolPrompt (params : Object) :
    l.withToolPrompt n params = m.withToolPrompt n' params := by
  rw [Lineage.withToolPrompt, Lineage.withToolPrompt, h.promptFor? agree]

theorem maskFor? : l.maskFor? n = m.maskFor? n' := by
  have others := findSome?_related h.candidates fun _ _ agree => agree.node.mask?
  rw [Lineage.maskFor?, Lineage.maskFor?, agree.mask?, others]

omit h in
theorem margins (params : Object) :
    ["top", "right", "bottom", "left"].foldl (withMargin n) params =
      ["top", "right", "bottom", "left"].foldl (withMargin n') params := by
  refine List.foldl_ext _ _ _ fun params side hs => ?_
  have read : ["top", "right", "bottom", "left"] ⊆ requestKeys := by simp [requestKeys]
  rw [withMargin, withMargin, agree.number? (read hs)]

theorem toolStep (params : Object) (t : Tool) :
    l.toolStep n params t = m.toolStep n' params t := by
  cases t with
  | upscale =>
    have scale : n.number? "scale" = n'.number? "scale" := agree.number? (by simp [requestKeys])
    have model : n.text? "upscaleModel" = n'.text? "upscaleModel" :=
      agree.text? (by simp [requestKeys])
    have face : n.flag? "faceEnhance" = n'.flag? "faceEnhance" :=
      agree.flag? (by simp [requestKeys])
    simp only [Lineage.toolStep, scale, model, face, h.settings]
  | removeBackground => rfl
  | inpaint => simp only [Lineage.toolStep, h.maskFor? agree, h.withToolPrompt agree]
  | outpaint => simp only [Lineage.toolStep, margins agree, h.withToolPrompt agree]

end

theorem tool : l.tool = m.tool := by
  have first := h.firstTool?
  rw [Lineage.tool, Lineage.tool]
  generalize ImageGraph.firstTool? l.ancestors = x, ImageGraph.firstTool? m.ancestors = y at first
  cases first with
  | none => rfl
  | @some p q same =>
    obtain ⟨a, t⟩ := p
    obtain ⟨b, u⟩ := q
    obtain ⟨agree, rfl⟩ := same
    simp only [h.requireBase, h.toolStep agree.node]

/-! ### Transforms of several images -/

theorem taggedImage (tag : String) : l.taggedImage tag = m.taggedImage tag := by
  have tagged := filter_related (S := Classified.AgreeOn requestKeys)
    (p := fun a => (a.node.text? "tag").any fun t => Text.lower (Text.trim t) == Text.lower tag)
    (q := fun a => (a.node.text? "tag").any fun t => Text.lower (Text.trim t) == Text.lower tag)
    h.candidates (fun a b agree => by rw [agree.node.text? (by simp [requestKeys])])
    fun _ _ agree _ => agree
  have image := findSome?_related tagged fun _ _ agree => agree.node.base
  simp only [Lineage.taggedImage, image]

theorem adapters : l.adapters = m.adapters := by
  refine filterMap_related h.candidates fun a b agree => ?_
  have weight : a.node.number? "weight" = b.node.number? "weight" :=
    agree.node.number? (by simp [requestKeys, promptKeys])
  rw [agree.node.base, weight, h.settings]

theorem kontextStep {n n' : Node} (agree : n.AgreeOn requestKeys n') (k : Kontext) :
    l.kontextStep n k = m.kontextStep n' k := by
  have prompt : l.kontextPrompt n = m.kontextPrompt n' := by
    funext fallback
    rw [kontextPrompt, kontextPrompt, h.promptFor? agree]
  cases k with
  | reference => simp only [Lineage.kontextStep, h.requireBase, prompt]
  | rescene => simp only [Lineage.kontextStep, h.taggedImage, prompt]
  | reangle =>
    have angle : n.number? "angle" = n'.number? "angle" := agree.number? (by simp [requestKeys])
    have direction : n.text? "direction" = n'.text? "direction" :=
      agree.text? (by simp [requestKeys])
    simp only [Lineage.kontextStep, h.requireBase, prompt, angle, direction, h.settings]
  | remix => simp only [Lineage.kontextStep, h.adapters, prompt]

theorem kontext : l.kontext = m.kontext := by
  have first := h.firstKontext?
  rw [Lineage.kontext, Lineage.kontext]
  generalize ImageGraph.firstKontext? l.ancestors = x,
    ImageGraph.firstKontext? m.ancestors = y at first
  cases first with
  | none => rfl
  | @some p q same =>
    obtain ⟨a, t⟩ := p
    obtain ⟨b, u⟩ := q
    obtain ⟨agree, rfl⟩ := same
    simp only [h.kontextStep agree.node]

/-! ### Generation from prompts -/

theorem imageStrength : l.imageStrength = m.imageStrength := by
  have strength := findSome?_related (h.withRole (r := .imageToImage) (by simp)) fun a b agree =>
    show (a.node.number? "creativity" <|> a.node.number? "strength") =
      (b.node.number? "creativity" <|> b.node.number? "strength") by
    rw [agree.node.number? (by simp [requestKeys]),
      agree.node.number? (by simp [requestKeys, promptKeys])]
  rw [Lineage.imageStrength, Lineage.imageStrength, strength, h.settings]

theorem imageToImage : l.imageToImage = m.imageToImage := by
  rw [Lineage.imageToImage, Lineage.imageToImage, h.baseImage?, h.prompts.generativeParams,
    h.imageStrength]

theorem contribution {n n' : Node} (agree : n.AgreeOn requestKeys n') (c : Control) :
    l.contribution n c = m.contribution n' c := by
  have strength : n.number? "strength" = n'.number? "strength" :=
    agree.number? (by simp [requestKeys, promptKeys])
  have guide : n.text? "guideUrl" = n'.text? "guideUrl" := agree.text? (by simp [requestKeys])
  simp only [Lineage.contribution, strength, guide, agree.base, agree.id, h.settings]

theorem contributions : l.contributions l.controls = m.contributions m.controls := by
  have each := map_related h.controls fun p q same =>
    show l.contribution p.1 p.2 = m.contribution q.1 q.2 by rw [h.contribution same.1, same.2]
  have all := congrArg (List.mapM id) each
  rwa [List.mapM_map, List.mapM_map] at all

theorem textToImage : l.textToImage = m.textToImage := by
  have main : l.mainWith = m.mainWith := by
    funext entries
    rw [mainWith, mainWith, h.prompts.generativeParams, h.prompts.seedImage?]
  have request : l.withContributions = m.withContributions := by
    funext found
    rw [withContributions, withContributions, main]
  rw [textToImage_eq, textToImage_eq, h.contributions, request]

theorem request : l.request = m.request := by
  rw [Lineage.request, Lineage.request, h.unsupported?, h.flow, h.tool, h.kontext, h.imageToImage,
    h.textToImage]

end Lineage.Alike

/-! ### What no request reads -/

/-- Image data that is held locally, and what a run leaves behind. -/
def unreadKeys : List String :=
  ["imageData", "maskData", "error", "seed", "nsfw", "generationId"]

/-- The target is a node, and an output. -/
def OutputTarget (nodes : List Node) (target : NodeId) : Prop :=
  ∃ n, nodeNamed? nodes target = some n ∧ n.role = .output

/-- The attributes of the node `id` that the request for `target` may depend on. -/
def MayRead (nodes : List Node) (target id : NodeId) (key : String) : Prop :=
  key ∉ unreadKeys ∧ (id = target → OutputTarget nodes target → key = "role" ∨ key = "subtype")

/-- Nodes with one id and one type that differ in nothing that the request for `target` may depend
on. -/
structure Node.SameFor (nodes : List Node) (target : NodeId) (n m : Node) : Prop where
  id : n.id = m.id
  kind : n.kind = m.kind
  attribute? : ∀ key, MayRead nodes target n.id key → n.attribute? key = m.attribute? key

theorem role_ofFamily_eq_output {type subtype : String} {polarity : Option String} {f : Family} :
    Role.ofFamily type polarity f subtype = .output ↔ f = .output := by
  cases f with
  | prompt =>
    simp only [Role.ofFamily]
    split <;> simp
  | tool => cases h : Tool.ofSubtype? subtype <;> simp [Role.ofFamily, h]
  | kontext => cases h : Kontext.ofSubtype? subtype <;> simp [Role.ofFamily, h]
  | imageToImage =>
    by_cases plain : subtype = ""
    · simp [Role.ofFamily, plain]
    · cases h : Tool.ofSubtype? subtype <;> cases h' : Kontext.ofSubtype? subtype <;>
        simp [Role.ofFamily, h, h']
  | _ => simp [Role.ofFamily]

/-- Whether a node is an output shows in its type string. -/
theorem Node.role_eq_output {n m : Node} (type : n.typeString = m.typeString)
    (output : n.role = .output) : m.role = .output := by
  unfold Node.role at output ⊢
  rw [← type]
  cases h : Family.split? n.typeString with
  | none =>
    rw [h] at output
    cases output
  | some found =>
    rw [h] at output
    exact role_ofFamily_eq_output.2 (role_ofFamily_eq_output.1 output)

section

variable {settings : Settings} {nodes nodes' : List Node} {edges : List Edge} {target : NodeId}
  {n m : Node}

theorem Node.SameFor.refl (n : Node) : n.SameFor nodes target n :=
  ⟨rfl, rfl, fun _ _ => rfl⟩

theorem Node.SameFor.typeString (h : n.SameFor nodes target m) : n.typeString = m.typeString := by
  have agree : n.AgreeOn ["role", "subtype"] m := by
    refine ⟨h.id, h.kind, fun key hk => h.attribute? key ⟨?_, fun _ _ => by simpa using hk⟩⟩
    revert key
    decide
  exact agree.typeString (by simp) (by simp)

theorem Node.SameFor.agreeOn (h : n.SameFor nodes target m)
    (read : ¬ (n.id = target ∧ OutputTarget nodes target)) : n.AgreeOn requestKeys m := by
  have kept : ∀ key ∈ requestKeys, key ∉ unreadKeys := by decide
  exact ⟨h.id, h.kind, fun key hk =>
    h.attribute? key ⟨kept key hk, fun own output => absurd ⟨own, output⟩ read⟩⟩

/-- Of several nodes with one id it is the named one whose role counts. -/
theorem Node.SameFor.classify (named : nodeNamed? nodes n.id = some n)
    (h : n.SameFor nodes target m) : n.classify.Alike requestKeys target m.classify := by
  have output (own : n.id = target) : OutputTarget nodes target ↔ n.role = .output := by
    rw [OutputTarget, ← own, named]
    simp
  refine ⟨h.id, ?_, fun read => h.agreeOn fun out => read ⟨out.1, ?_⟩⟩
  -- The role of the target is read in any case. All else of an output target is not.
  · rw [classify_role, classify_role]
    by_cases out : n.id = target ∧ OutputTarget nodes target
    · have role := (output out.1).1 out.2
      rw [role, role_eq_output h.typeString role]
    · exact (h.agreeOn out).role (by simp [requestKeys, promptKeys])
        (by simp [requestKeys, promptKeys]) (by simp [requestKeys, promptKeys])
  · rw [classify_role]
    exact (output out.1).1 out.2

theorem lineageOf_sameFor (same : List.Forall₂ (Node.SameFor nodes target) nodes nodes') :
    (lineageOf settings nodes edges target).Alike requestKeys
      (lineageOf settings nodes' edges target) where
  target := rfl
  settings := rfl
  ancestors := by
    rw [lineageOf, lineageOf, List.forall₂_map_left_iff, List.forall₂_map_right_iff]
    refine ancestors_related (fun id => ?_) target
    have found := nodeNamed?_related (fun _ _ same => same.id) same id
    generalize hn : nodeNamed? nodes id = x, nodeNamed? nodes' id = y at found
    cases found with
    | none => exact .none
    | @some n m same =>
      have named : nodeNamed? nodes n.id = some n := by rw [nodeNamed?_id hn, hn]
      exact .some (same.classify named)

theorem compile_sameFor (same : List.Forall₂ (Node.SameFor nodes target) nodes nodes') :
    compile settings nodes edges target = compile settings nodes' edges target := by
  have ids : nodes.map Node.id = nodes'.map Node.id := map_related same fun _ _ same => same.id
  have known : Named nodes target ↔ Named nodes' target := by
    rw [Named, Named, ← List.mem_map, ids, List.mem_map]
  by_cases named : Named nodes target
  · rw [compile_named settings named, compile_named settings (known.1 named)]
    exact (lineageOf_sameFor same).request
  · rw [compile_unnamed settings named, compile_unnamed settings fun h => named (known.2 h)]

theorem OutputTarget.of_sameFor (same : List.Forall₂ (Node.SameFor nodes target) nodes nodes')
    (output : OutputTarget nodes target) : OutputTarget nodes' target := by
  obtain ⟨n, hn, role⟩ := output
  have found := nodeNamed?_related (fun _ _ same => same.id) same target
  rw [hn] at found
  generalize hm : nodeNamed? nodes' target = y at found
  cases found with
  | @some _ m same => exact ⟨m, hm, Node.role_eq_output same.typeString role⟩

/-- A patch that leaves the role of an output alone changes nothing that counts. -/
theorem sameFor_update {w : Workflow} (output : OutputTarget w.nodes target) {patch : Object}
    (role : patch.get? "role" = none) (subtype : patch.get? "subtype" = none) :
    List.Forall₂ (Node.SameFor w.nodes target) w.nodes (w.update target patch).nodes := by
  refine Workflow.update_related .refl fun n own => ⟨rfl, rfl, fun key read => ?_⟩
  rw [n.attribute?_merge]
  obtain rfl | rfl := read.2 own output
  · rw [role]
    rfl
  · rw [subtype]
    rfl

end

section

variable {t : Trigger} {w : World} (output : OutputTarget w.workflow.nodes t.output)
include output

theorem compile_fail (had : Option RecordId) (e : ExecutionError) :
    (t.fail w had e).world.compile t.output = w.compile t.output := by
  rw [t.fail_world, World.compile, World.leave_workflow, World.leave_settings]
  exact (compile_sameFor (sameFor_update output rfl rfl)).symm

theorem compile_succeed (record : RecordId) (response : Json) (o : Output) :
    (t.succeed w record response o).world.compile t.output = w.compile t.output := by
  have written : List.Forall₂ (Node.SameFor w.workflow.nodes t.output) w.workflow.nodes
      (w.workflow.update t.output (o.patch record)).nodes :=
    sameFor_update output (by simp [Output.patch]) (by simp [Output.patch])
  have again : (w.update t.output (o.patch record)).compile t.output = w.compile t.output :=
    (compile_sameFor written).symm
  cases hm : w.store.mark (.succeeded response) w.now record with
  | error e => rw [Trigger.succeed_error hm, compile_fail (output.of_sameFor written), again]
  | ok p =>
    obtain ⟨r, s⟩ := p
    rw [Trigger.succeed_ok hm, World.compile, World.leave_workflow, World.leave_settings]
    exact again

end

/-- The node without the image data that it holds locally. -/
def Node.withoutLocalData (n : Node) : Node :=
  n.merge ((Object.empty.insert "imageData" .null).insert "maskData" .null)

theorem Node.sameFor_withoutLocalData (n : Node) (nodes : List Node) (target : NodeId) :
    n.SameFor nodes target n.withoutLocalData := by
  refine ⟨rfl, rfl, fun key read => ?_⟩
  have image : key ≠ "imageData" := fun h => read.1 (by simp [h, unreadKeys])
  have mask : key ≠ "maskData" := fun h => read.1 (by simp [h, unreadKeys])
  rw [withoutLocalData, attribute?_merge]
  simp [patchedValue, image, mask]

/-- A request is the same for nodes that differ only in attributes that are never read, or, where
the target is an output, in other attributes of the target than its role. So no image data that is
held locally gets into a request, and what a run writes to its output makes no difference to the
next request for it. -/
theorem compile_unread (settings : Settings) (edges : List Edge) (target : NodeId) :
    (∀ nodes nodes' : List Node, List.Forall₂ (Node.SameFor nodes target) nodes nodes' →
      compile settings nodes edges target = compile settings nodes' edges target) ∧
    (∀ nodes : List Node, compile settings (nodes.map Node.withoutLocalData) edges target =
      compile settings nodes edges target) ∧
    ∀ (t : Trigger) (w : World), OutputTarget w.workflow.nodes t.output →
      (∀ had e, (t.fail w had e).world.compile t.output = w.compile t.output) ∧
      ∀ record response output,
        (t.succeed w record response output).world.compile t.output = w.compile t.output :=
  ⟨fun _ _ same => compile_sameFor same,
    fun nodes => (compile_sameFor (List.forall₂_map_right_iff.2
      (List.forall₂_same.2 fun n _ => n.sameFor_withoutLocalData nodes target))).symm,
    fun _ _ output => ⟨compile_fail output, compile_succeed output⟩⟩

/-- The output is its own ancestor and holds an earlier result. Its request is made from the photo,
and neither the next result nor a failure changes it. -/
theorem compile_unread_cycle :
    let edges : List Edge := [⟨"1", "paint", "out"⟩, ⟨"2", "out", "paint"⟩, ⟨"3", "photo", "paint"⟩]
    let before : List Node := [⟨"out", "output", .obj [("imageUrl", .str "first")]⟩,
      ⟨"paint", "image-to-image", .null⟩,
      ⟨"photo", "image-source", .obj [("imageData", .str "bytes"), ("imageId", .str "id")]⟩]
    let after : List Node := [⟨"out", "output", .obj [("imageUrl", .str "second")]⟩,
      ⟨"paint", "image-to-image", .null⟩,
      ⟨"photo", "image-source", .obj [("imageId", .str "id")]⟩]
    let t : Trigger := ⟨"flow", "out"⟩
    let w : World := {
      settings := {}, workflow := ⟨"flow", "", before, edges⟩, recordName := fun _ => "record" }
    List.Forall₂ (Node.SameFor before "out") before after ∧ OutputTarget w.workflow.nodes t.output ∧
      ((w.compile "out").toOption.bind fun r => (r.main.params.get? "image").bind string?) =
        some "id" ∧
      w.compile "out" = compile {} after edges "out" ∧
      ∀ had e, (t.fail w had e).world.compile t.output = w.compile t.output := by
  intro edges before after t w
  have output : OutputTarget before "out" := ⟨_, rfl, by decide +kernel⟩
  have result : before[0].SameFor before "out" after[0] := by
    refine ⟨rfl, rfl, fun key read => ?_⟩
    obtain rfl | rfl := read.2 rfl output <;> rfl
  have photo : before[2].SameFor before "out" after[2] := by
    refine ⟨rfl, rfl, fun key read => ?_⟩
    have data : key ≠ "imageData" := fun h => read.1 (by simp [h, unreadKeys])
    simp [before, after, Node.attribute?, field?, lookup_cons_eq, data]
  have same : List.Forall₂ (Node.SameFor before "out") before after :=
    .cons result (.cons (.refl _) (.cons photo .nil))
  have unread := compile_unread {} edges "out"
  exact ⟨same, output, by decide +kernel, unread.1 before after same, (unread.2.2 t w output).1⟩

end ImageGraph
