import ImageGraph.Proofs.Request.Refusal
import ImageGraph.Proofs.Request.Shape
import ImageGraph.Proofs.Text.Trim

/-! Requests do not depend on the order in which nodes and edges are listed, up to the order of what
they list and to which of several values they take. A search goes through the same ancestors in some
order, so each reader of a lineage is compared on two orders of one list. -/

namespace ImageGraph

open Json

private theorem isSome_findSome?_perm {α β : Type} {xs ys : List α} (h : xs.Perm ys)
    (f : α → Option β) : (xs.findSome? f).isSome = (ys.findSome? f).isSome := by
  rw [List.isSome_findSome?, List.isSome_findSome?, h.any_eq]

/-- What only one member of a list can answer is answered alike in any order. -/
private theorem findSome?_perm_of_one {α β : Type} {xs ys : List α} {f : α → Option β}
    (h : xs.Perm ys)
    (one : ∀ a ∈ xs, ∀ b ∈ xs, (f a).isSome → (f b).isSome → a = b) :
    xs.findSome? f = ys.findSome? f := by
  cases hx : xs.findSome? f with
  | none =>
    symm
    rw [List.findSome?_eq_none_iff] at hx ⊢
    exact fun a ha => hx a (h.mem_iff.2 ha)
  | some c =>
    have there : (ys.findSome? f).isSome := by
      rw [← isSome_findSome?_perm h, hx]
      rfl
    obtain ⟨d, hd⟩ := Option.isSome_iff_exists.1 there
    obtain ⟨a, ha, hc⟩ := List.exists_of_findSome?_eq_some hx
    obtain ⟨b, hb, hd'⟩ := List.exists_of_findSome?_eq_some hd
    obtain rfl := one a ha b (h.mem_iff.2 hb) (by simp [hc]) (by simp [hd'])
    rw [hd, ← hd', hc]

namespace Json.Object.SameShape

variable {params params' : Object} (same : params.SameShape params')
include same

theorem withMargins (n : Node) (sides : List String) :
    (sides.foldl (Lineage.withMargin n) params).SameShape
      (sides.foldl (Lineage.withMargin n) params') := by
  induction sides generalizing params params' with
  | nil => exact same
  | cons side rest ih => exact ih (same.insert side (.refl _))

theorem withImage {image image' : String} {strength strength' : Float} :
    (Lineage.withImage params image strength).SameShape
      (Lineage.withImage params' image' strength') :=
  (same.insert "image" (sameShape_str _ _)).insert "strength" (sameShape_ofFloat _ _)

end Json.Object.SameShape

namespace Lineage

/-- Lineages of one target with the same ancestors in some order. -/
structure Reordered (l m : Lineage) : Prop where
  target : l.target = m.target
  settings : l.settings = m.settings
  ancestors : l.ancestors.Perm m.ancestors

/-- The texts of one polarity, not yet trimmed. -/
def texts (l : Lineage) (p : Polarity) : List String :=
  (l.withRole (.prompt p)).filterMap fun a => a.node.text? "text"

theorem prompt?_eq (l : Lineage) (p : Polarity) :
    l.prompt? p = if l.texts p = [] then none
      else some ("\n\n".intercalate ((l.texts p).map Text.trim)) := by
  unfold prompt? texts
  split
  · rename_i none
    rw [if_pos none]
  · rename_i filled
    rw [if_neg filled]

theorem filled_of_mem_texts {l : Lineage} {p : Polarity} {t : String} (h : t ∈ l.texts p) :
    Text.allBlank t = false := by
  obtain ⟨a, -, ha⟩ := List.mem_filterMap.1 h
  exact filled_of_text? ha

namespace Reordered

variable {l m : Lineage} (h : l.Reordered m)
include h

/-! ### What is read from the ancestors -/

theorem withRole (r : Role) : (l.withRole r).Perm (m.withRole r) :=
  h.ancestors.filter _

theorem candidates : l.candidates.Perm m.candidates := by
  rw [Lineage.candidates, Lineage.candidates, h.target]
  exact h.ancestors.filter _

theorem controls : l.controls.Perm m.controls :=
  h.ancestors.filterMap _

theorem isSome_baseImage? : l.baseImage?.isSome = m.baseImage?.isSome :=
  isSome_findSome?_perm h.candidates _

theorem isSome_maskFor? (n : Node) : (l.maskFor? n).isSome = (m.maskFor? n).isSome := by
  rw [maskFor?, maskFor?]
  cases n.mask? with
  | some mask => rfl
  | none => exact isSome_findSome?_perm h.candidates _

theorem isSome_seedImage? : l.seedImage?.isSome = m.seedImage?.isSome := by
  rw [seedImage?, seedImage?, h.settings]
  exact isSome_findSome?_perm (h.withRole _) _

theorem adapters : l.adapters.Perm m.adapters := by
  rw [Lineage.adapters, Lineage.adapters, h.settings]
  exact h.candidates.filterMap _

theorem loras : l.loras.Perm m.loras := by
  have attached : l.loraOf? = m.loraOf? := by
    funext j
    cases j <;> simp only [loraOf?, h.settings]
  have standalone : l.loraNode? = m.loraNode? := by
    funext n
    simp only [loraNode?, h.settings]
  rw [Lineage.loras, Lineage.loras, attached, standalone]
  refine ((h.withRole .engine).flatMap_right _).append (List.Perm.filterMap _ ?_)
  exact (List.mergeSort_perm _ _).trans ((h.withRole .lora).trans (List.mergeSort_perm _ _).symm)

/-! ### Prompts -/

theorem texts (p : Polarity) : (l.texts p).Perm (m.texts p) :=
  (h.withRole _).filterMap _

theorem texts_eq_nil_iff (p : Polarity) : l.texts p = [] ↔ m.texts p = [] := by
  rw [← List.length_eq_zero_iff, (h.texts p).length_eq, List.length_eq_zero_iff]

theorem isSome_prompt? (p : Polarity) : (l.prompt? p).isSome = (m.prompt? p).isSome := by
  rw [prompt?_eq, prompt?_eq, if_congr (h.texts_eq_nil_iff p) rfl rfl]
  split <;> rfl

theorem isSome_promptFor? (n : Node) : (l.promptFor? n).isSome = (m.promptFor? n).isSome := by
  rw [promptFor?, promptFor?]
  obtain ⟨hl, hm⟩ | ⟨s, t, hl, hm⟩ := both_of_isSome_eq (h.isSome_prompt? .positive)
  · rw [hl, hm]
  · rw [hl, hm]
    rfl

/-- A negative prompt is as long in any order of its texts, since nothing is trimmed off a join. -/
theorem isSome_negativePrompt? : l.negativePrompt?.isSome = m.negativePrompt?.isSome := by
  have length := Text.length_trim_intercalate_perm "\n\n" (h.texts .negative) fun _ =>
    filled_of_mem_texts
  rw [negativePrompt?, negativePrompt?, h.settings, prompt?_eq, prompt?_eq,
    if_congr (h.texts_eq_nil_iff .negative) rfl rfl]
  split
  · rfl
  · rw [Option.filter_some, Option.filter_some, length]
    split <;> rfl

theorem generativeParams : l.generativeParams.SameShape m.generativeParams := by
  refine ((((Object.SameShape.refl _).insert "model" (sameShape_str _ _)).insertSome "loras"
    (sameShape_nonempty? (h.loras.map _))).insertSome "positivePrompt"
    (sameShape_map_str (h.isSome_prompt? _))).insertSome "negativePrompt"
    (sameShape_map_str h.isSome_negativePrompt?)

/-! ### Transforms -/

theorem requireBase (flow : String) :
    SameOutcome (fun _ _ => True) (l.requireBase flow) (m.requireBase flow) := by
  rw [Lineage.requireBase, Lineage.requireBase]
  obtain ⟨hl, hm⟩ | ⟨image, image', hl, hm⟩ := both_of_isSome_eq h.isSome_baseImage? <;>
    rw [hl, hm]
  · exact .error _
  · exact .ok trivial

variable {params params' : Object}

theorem withToolPrompt (n : Node) (same : params.SameShape params') :
    (l.withToolPrompt n params).SameShape (m.withToolPrompt n params') :=
  same.insertSome "prompt" (sameShape_map_str (h.isSome_promptFor? n))

theorem toolStep (n : Node) (t : Tool) (same : params.SameShape params') :
    SameOutcome MainStep.SameShape (l.toolStep n params t) (m.toolStep n params' t) := by
  cases t with
  | upscale =>
    refine .ok ⟨rfl, ?_⟩
    exact ((same.insert "scale" (sameShape_ofFloat _ _)).insert "upscaleModel"
      (sameShape_str _ _)).insert "faceEnhance" (.refl _)
  | removeBackground => exact .ok ⟨rfl, same⟩
  | inpaint =>
    rw [Lineage.toolStep, Lineage.toolStep]
    obtain ⟨hl, hm⟩ | ⟨mask, mask', hl, hm⟩ := both_of_isSome_eq (h.isSome_maskFor? n) <;>
      rw [hl, hm]
    · exact .error _
    · exact .ok ⟨rfl, h.withToolPrompt n (same.insert "mask" (sameShape_str _ _))⟩
  | outpaint => exact .ok ⟨rfl, h.withToolPrompt n (same.withMargins n _)⟩

theorem tool (first : firstTool? l.ancestors = firstTool? m.ancestors) :
    SameOutcome Request.SameShape l.tool m.tool := by
  unfold Lineage.tool
  rw [first]
  split
  · exact .error _
  · rename_i a t _
    refine (h.requireBase t.name).bind fun {image image'} _ => ?_
    have same : (Object.empty.insert "image" (.str image)).SameShape
        (Object.empty.insert "image" (.str image')) :=
      (Object.SameShape.refl _).insert "image" (sameShape_str _ _)
    exact (h.toolStep a.node t same).bind fun main => .ok ⟨rfl, .refl _, main⟩

theorem taggedImage (tag : String) :
    SameOutcome (fun _ _ => True) (l.taggedImage tag) (m.taggedImage tag) := by
  have tagged := isSome_findSome?_perm (h.candidates.filter fun a =>
    (a.node.text? "tag").any fun t => Text.lower (Text.trim t) == Text.lower tag)
    fun a => a.node.image?
  rw [Lineage.taggedImage, Lineage.taggedImage]
  obtain ⟨hl, hm⟩ | ⟨image, image', hl, hm⟩ := both_of_isSome_eq tagged <;> rw [hl, hm]
  · exact .error _
  · exact .ok trivial

theorem kontextStep (n : Node) (k : Kontext) :
    SameOutcome MainStep.SameShape (l.kontextStep n k) (m.kontextStep n k) := by
  cases k with
  | reference =>
    refine (h.requireBase _).bind fun _ => .ok ⟨rfl, ?_⟩
    exact ((Object.SameShape.refl _).insert "image" (sameShape_str _ _)).insert "prompt"
      (sameShape_str _ _)
  | rescene =>
    refine (h.taggedImage _).bind fun _ => (h.taggedImage _).bind fun _ => .ok ⟨rfl, ?_⟩
    exact (((Object.SameShape.refl _).insert "sceneImage" (sameShape_str _ _)).insert "objectImage"
      (sameShape_str _ _)).insert "prompt" (sameShape_str _ _)
  | reangle =>
    refine (h.requireBase _).bind fun _ => .ok ⟨rfl, ?_⟩
    exact ((((Object.SameShape.refl _).insert "image" (sameShape_str _ _)).insert "angle"
      (sameShape_ofFloat _ _)).insert "direction" (sameShape_str _ _)).insert "prompt"
      (sameShape_str _ _)
  | remix =>
    have same := sameShape_nonempty? h.adapters
    rw [Lineage.kontextStep, Lineage.kontextStep]
    obtain ⟨hl, hm⟩ | ⟨items, items', hl, hm⟩ := both_of_isSome_eq same.isSome <;> rw [hl, hm]
    · exact .error _
    · rw [hl, hm] at same
      exact .ok ⟨rfl, ((Object.SameShape.refl _).insert "ipAdapters" same).insert "prompt"
        (sameShape_str _ _)⟩

theorem kontext (first : firstKontext? l.ancestors = firstKontext? m.ancestors) :
    SameOutcome Request.SameShape l.kontext m.kontext := by
  rw [Lineage.kontext, Lineage.kontext, first]
  split
  · exact .error _
  · exact (h.kontextStep _ _).map fun main => ⟨rfl, .refl _, main⟩

/-! ### Generation -/

theorem imageToImage : SameOutcome Request.SameShape l.imageToImage m.imageToImage := by
  rw [Lineage.imageToImage, Lineage.imageToImage]
  obtain ⟨hl, hm⟩ | ⟨image, image', hl, hm⟩ := both_of_isSome_eq h.isSome_baseImage? <;>
    rw [hl, hm]
  · exact .error _
  · exact .ok ⟨rfl, .refl _, rfl, h.generativeParams.withImage⟩

theorem contribution (n : Node) (c : Control) : l.contribution n c = m.contribution n c := by
  rw [Lineage.contribution, Lineage.contribution, h.settings]

theorem contributions (controls : List (Node × Control)) :
    l.contributions controls = m.contributions controls := by
  rw [Lineage.contributions, Lineage.contributions]
  simp only [h.contribution]

theorem mainWith {entries entries' : List ControlEntry} (same : entries.Perm entries') :
    (l.mainWith entries).SameShape (m.mainWith entries') := by
  have params := h.generativeParams.insertSome "controlnet"
    (sameShape_nonempty? (same.map ControlEntry.toJson))
  rw [Lineage.mainWith, Lineage.mainWith]
  obtain ⟨hl, hm⟩ | ⟨seed, seed', hl, hm⟩ := both_of_isSome_eq h.isSome_seedImage? <;>
    rw [hl, hm]
  · exact ⟨rfl, params⟩
  · exact ⟨rfl, params.withImage⟩

theorem withContributions {found found' : List Contribution} (same : found.Perm found') :
    (l.withContributions found).SameShape (m.withContributions found') :=
  ⟨rfl, same.filterMap _, h.mainWith (same.filterMap _)⟩

end Reordered

variable {l m : Lineage}

theorem contribution_cases (l : Lineage) (n : Node) (c : Control) :
    (∃ found, l.contribution n c = .ok found) ∨
      l.contribution n c = .error (.unsupportedSubtype n.id c.name) := by
  unfold contribution
  split
  · split <;> exact .inl ⟨_, rfl⟩
  · exact .inr rfl

/-- Control-nets contribute the same in any order. If several are refused, the first is blamed. -/
theorem contributions_perm {controls controls' : List (Node × Control)}
    (h : controls.Perm controls') :
    SameOutcome List.Perm (l.contributions controls) (l.contributions controls') := by
  induction h with
  | nil => exact .ok (.refl _)
  | cons p _ ih =>
    simp only [contributions, List.mapM_cons] at ih ⊢
    obtain ⟨found, hp⟩ | hp := l.contribution_cases p.1 p.2 <;> rw [hp]
    · exact ih.bind fun same => .ok (same.cons found)
    · exact .error _
  | swap p q rest =>
    simp only [contributions, List.mapM_cons]
    obtain ⟨first, hp⟩ | hp := l.contribution_cases p.1 p.2 <;>
      obtain ⟨second, hq⟩ | hq := l.contribution_cases q.1 q.2 <;> rw [hp, hq]
    · cases List.mapM (fun p => l.contribution p.1 p.2) rest with
      | error e => exact .error e
      | ok found => exact .ok (.swap ..)
    · exact .error _
    · exact .error _
    · exact .unsupported ..
  | trans _ _ first second => exact first.trans List.Perm.trans second

theorem Reordered.textToImage (h : l.Reordered m) :
    SameOutcome Request.SameShape l.textToImage m.textToImage := by
  rw [textToImage_eq, textToImage_eq, ← h.contributions]
  exact (contributions_perm h.controls).map fun same => h.withContributions same

/-! ### The request -/

theorem Reordered.flow (h : l.Reordered m) : Flow.of l.ancestors = Flow.of m.ancestors := by
  rw [Flow.of, Flow.of, firstTool?, firstTool?, firstKontext?, firstKontext?,
    isSome_findSome?_perm h.ancestors, isSome_findSome?_perm h.ancestors, h.ancestors.any_eq]

theorem unsupported?_cases (l : Lineage) :
    l.unsupported? = none ∨
      ∃ id subtype, l.unsupported? = some (.unsupportedSubtype id subtype) := by
  cases hl : l.unsupported? with
  | none => exact .inl rfl
  | some e =>
    obtain ⟨a, -, ha⟩ := List.exists_of_findSome?_eq_some hl
    split at ha <;> cases ha
    exact .inr ⟨_, _, rfl⟩

theorem Reordered.request (h : l.Reordered m)
    (tool : firstTool? l.ancestors = firstTool? m.ancestors)
    (kontext : firstKontext? l.ancestors = firstKontext? m.ancestors) :
    SameOutcome Request.SameShape l.request m.request := by
  have some : l.unsupported?.isSome = m.unsupported?.isSome :=
    isSome_findSome?_perm h.ancestors _
  rw [Lineage.request, Lineage.request, h.flow]
  obtain hl | ⟨n, subtype, hl⟩ := l.unsupported?_cases <;>
    obtain hm | ⟨n', subtype', hm⟩ := m.unsupported?_cases <;> rw [hl, hm] at some ⊢
  · cases Flow.of m.ancestors with
    | tool => exact h.tool tool
    | kontext => exact h.kontext kontext
    | imageToImage => exact h.imageToImage
    | textToImage => exact h.textToImage
  · cases some
  · cases some
  · exact .unsupported ..

end Lineage

instance (n : Node) : Decidable n.IsTool :=
  decidable_of_iff (n.role.name = "tool")
    (by cases hr : n.role <;> simp [Node.IsTool, Role.name, hr])

instance (n : Node) : Decidable n.IsKontext :=
  decidable_of_iff (n.role.name = "kontext")
    (by cases hr : n.role <;> simp [Node.IsKontext, Role.name, hr])

/-- Of the nodes with a property there is one at most. -/
def AtMostOne (P : Node → Prop) (found : List Node) : Prop :=
  ∀ m ∈ found, ∀ n ∈ found, P m → P n → m.id = n.id

instance {P : Node → Prop} [DecidablePred P] (found : List Node) : Decidable (AtMostOne P found) :=
  inferInstanceAs (Decidable (∀ m ∈ found, ∀ n ∈ found, P m → P n → m.id = n.id))

section

variable {found found' : List Node} (unique : (found.map Node.id).Nodup) (h : found.Perm found')
include unique h

/-- The one node that a reader answers for is found wherever it stands. -/
private theorem findSome?_classify_perm {β : Type} {f : Classified → Option β} {P : Node → Prop}
    (hf : ∀ n : Node, (f n.classify).isSome → P n) (one : AtMostOne P found) :
    (found.map Node.classify).findSome? f = (found'.map Node.classify).findSome? f := by
  refine findSome?_perm_of_one (h.map Node.classify) fun a ha b hb some some' => ?_
  obtain ⟨m, hm, rfl⟩ := List.mem_map.1 ha
  obtain ⟨n, hn, rfl⟩ := List.mem_map.1 hb
  rw [eq_of_id_eq unique hm hn (one m hm n hn (hf m some) (hf n some'))]

theorem firstTool?_perm (one : AtMostOne Node.IsTool found) :
    firstTool? (found.map Node.classify) = firstTool? (found'.map Node.classify) := by
  refine findSome?_classify_perm unique h (fun n some => ?_) one
  cases hr : n.role <;> simp_all [Node.classify, Node.IsTool]

theorem firstKontext?_perm (one : AtMostOne Node.IsKontext found) :
    firstKontext? (found.map Node.classify) = firstKontext? (found'.map Node.classify) := by
  refine findSome?_classify_perm unique h (fun n some => ?_) one
  cases hr : n.role <;> simp_all [Node.classify, Node.IsKontext]

end

/-- With one node to an id and at most one tool and one transform among the ancestors of the target,
the order in which nodes and edges are listed does not decide whether there is a request, nor, up to
the blame for an unsupported subtype, why there is none, nor what the request consists of. -/
theorem compile_reordered (settings : Settings) {nodes nodes' : List Node}
    {edges edges' : List Edge} (target : NodeId) (unique : (nodes.map Node.id).Nodup)
    (hn : nodes.Perm nodes') (he : edges.Perm edges')
    (tools : AtMostOne Node.IsTool (ancestors nodes edges target))
    (kontexts : AtMostOne Node.IsKontext (ancestors nodes edges target)) :
    SameOutcome Request.SameShape (compile settings nodes edges target)
      (compile settings nodes' edges' target) := by
  have found := ancestors_perm unique hn he target
  have ids := nodup_search nodes edges [] [target]
  by_cases named : Named nodes target
  · have named' : Named nodes' target := by
      obtain ⟨n, known, same⟩ := named
      exact ⟨n, hn.mem_iff.1 known, same⟩
    rw [compile_named settings named, compile_named settings named']
    have reordered : (lineageOf settings nodes edges target).Reordered
        (lineageOf settings nodes' edges' target) := ⟨rfl, rfl, found.map Node.classify⟩
    exact reordered.request (firstTool?_perm ids found tools)
      (firstKontext?_perm ids found kontexts)
  · have unnamed : ¬ Named nodes' target := by
      rintro ⟨n, known, same⟩
      exact named ⟨n, hn.mem_iff.2 known, same⟩
    rw [compile_unnamed settings named, compile_unnamed settings unnamed]
    exact .error _

/-- An inpainting node with two images and two prompts to choose from. -/
theorem compile_reversed_inpaint :
    let nodes : List Node := [
      ⟨"out", "output", .null⟩,
      ⟨"fix", "tool-inpaint", .obj [("maskId", .str "m")]⟩,
      ⟨"a", "image-source", .obj [("imageId", .str "1")]⟩,
      ⟨"b", "image-source", .obj [("imageId", .str "2")]⟩,
      ⟨"c", "prompt", .obj [("text", .str "rain")]⟩,
      ⟨"d", "prompt", .obj [("text", .str "snow")]⟩]
    let edges : List Edge := [
      ⟨"1", "fix", "out"⟩, ⟨"2", "a", "fix"⟩, ⟨"3", "b", "fix"⟩, ⟨"4", "c", "out"⟩,
      ⟨"5", "d", "out"⟩]
    ((nodes.map Node.id).Nodup ∧ AtMostOne Node.IsTool (ancestors nodes edges "out") ∧
      AtMostOne Node.IsKontext (ancestors nodes edges "out")) ∧
    SameOutcome Request.SameShape (compile {} nodes edges "out")
      (compile {} nodes.reverse edges.reverse "out") := by
  intro nodes edges
  have unique : (nodes.map Node.id).Nodup := by decide +kernel
  have tools : AtMostOne Node.IsTool (ancestors nodes edges "out") := by decide +kernel
  have kontexts : AtMostOne Node.IsKontext (ancestors nodes edges "out") := by decide +kernel
  exact ⟨⟨unique, tools, kontexts⟩, compile_reordered {} "out" unique nodes.reverse_perm.symm
    edges.reverse_perm.symm tools kontexts⟩

end ImageGraph
