import ImageGraph.Proofs.Request.Refusal
import ImageGraph.Proofs.Request.Snapshot

/-! What the control-nets of a text-to-image request come to. Each conditions the call by an entry,
gets a step that makes its guide, or has nothing to give, in the order of the search; a seed image
does neither, and the first that can be referred to is what the call starts from. -/

namespace ImageGraph

open Json

/-- A control-net whose image is a condition, not a seed. -/
structure Node.Conditions (n : Node) (c : Control) : Prop where
  role : n.role = .controlNet c
  unseeded : c ≠ .lights

/-- A seed image that can be referred to. -/
structure Node.IsSeed (n : Node) : Prop where
  role : n.role = .controlNet .lights
  image : n.image?.isSome

/-- The strength that a control-net asks for, or else the default. -/
def Settings.controlStrength (settings : Settings) (n : Node) : Float :=
  (n.number? "strength").getD settings.defaultControlnetStrength

/-- Nodes in their order, with the entries and the steps that they give rise to. -/
inductive Split (settings : Settings) :
    List Node → List ControlEntry → List PreprocessStep → Prop where
  | nil : Split settings [] [] []
  | apart {n : Node} {rest : List Node} {entries : List ControlEntry}
      {steps : List PreprocessStep} :
      (∀ c, ¬ n.Conditions c) → Split settings rest entries steps →
      Split settings (n :: rest) entries steps
  | entry {n : Node} {c : Control} {guide model : String} {rest : List Node}
      {entries : List ControlEntry} {steps : List PreprocessStep} :
      n.Conditions c → n.text? "guideUrl" = some guide → c.model? = some model →
      Split settings rest entries steps →
      Split settings (n :: rest)
        (⟨guide, settings.controlStrength n, model, c.name⟩ :: entries) steps
  | step {n : Node} {c : Control} {source model preprocessor : String} {rest : List Node}
      {entries : List ControlEntry} {steps : List PreprocessStep} :
      n.Conditions c → n.text? "guideUrl" = none → n.image? = some source →
      c.model? = some model → c.preprocessor? = some preprocessor →
      Split settings rest entries steps →
      Split settings (n :: rest) entries
        (⟨n.id, c, source, preprocessor, settings.controlStrength n, model⟩ :: steps)
  | idle {n : Node} {c : Control} {rest : List Node} {entries : List ControlEntry}
      {steps : List PreprocessStep} :
      n.Conditions c → n.text? "guideUrl" = none → n.image? = none →
      Split settings rest entries steps → Split settings (n :: rest) entries steps

/-- What a text-to-image call starts from: the first seed image among the nodes, with the strength
of its node, or else nothing. -/
inductive StartsFrom (settings : Settings) (found : List Node) (main : MainStep) : Prop where
  | seed {n : Node} {image : String} :
      FirstWith Node.IsSeed found n → n.image? = some image → main.method = .img2img →
      main.params.get? "image" = some (.str image) →
      main.params.get? "strength" =
        some (ofFloat ((n.number? "strength").getD settings.defaultI2iStrength)) →
      StartsFrom settings found main
  | nothing : (∀ n ∈ found, ¬ n.IsSeed) → main.method = .txt2img →
      main.params.get? "image" = none → main.params.get? "strength" = none →
      StartsFrom settings found main

theorem Node.Conditions.unique {n : Node} {c d : Control} (h : n.Conditions c)
    (h' : n.Conditions d) : c = d :=
  Role.controlNet.inj (h.role.symm.trans h'.role)

/-- Nodes are split in one way. -/
theorem Split.unique {settings : Settings} {nodes : List Node}
    {entries entries' : List ControlEntry} {steps steps' : List PreprocessStep}
    (h : Split settings nodes entries steps)
    (h' : Split settings nodes entries' steps') : entries = entries' ∧ steps = steps' := by
  -- Two rules for one node differ in its role, in its guide or in its image.
  induction h generalizing entries' steps' with
  | nil =>
    cases h'
    exact ⟨rfl, rfl⟩
  | apart other _ ih =>
    cases h' with
    | apart _ rest => exact ih rest
    | entry conditions => exact absurd conditions (other _)
    | step conditions => exact absurd conditions (other _)
    | idle conditions => exact absurd conditions (other _)
  | entry conditions guided model _ ih =>
    cases h' with
    | apart other => exact absurd conditions (other _)
    | entry conditions' guided' model' rest =>
      obtain rfl := conditions.unique conditions'
      cases guided.symm.trans guided'
      cases model.symm.trans model'
      obtain ⟨rfl, rfl⟩ := ih rest
      exact ⟨rfl, rfl⟩
    | step _ unguided => cases guided.symm.trans unguided
    | idle _ unguided => cases guided.symm.trans unguided
  | step conditions unguided held model preprocessor _ ih =>
    cases h' with
    | apart other => exact absurd conditions (other _)
    | entry _ guided => cases unguided.symm.trans guided
    | step conditions' _ held' model' preprocessor' rest =>
      obtain rfl := conditions.unique conditions'
      cases held.symm.trans held'
      cases model.symm.trans model'
      cases preprocessor.symm.trans preprocessor'
      obtain ⟨rfl, rfl⟩ := ih rest
      exact ⟨rfl, rfl⟩
    | idle _ _ missing => cases held.symm.trans missing
  | idle conditions unguided missing _ ih =>
    cases h' with
    | apart other => exact absurd conditions (other _)
    | entry _ guided => cases unguided.symm.trans guided
    | step _ _ held => cases missing.symm.trans held
    | idle _ _ _ rest => exact ih rest

namespace Node

/-- What a call can start from, if the node is a seed image that can be referred to. -/
def seed? (settings : Settings) (n : Node) : Option (String × Float) :=
  if n.role = .controlNet .lights then
    n.image?.map fun image => (image, (n.number? "strength").getD settings.defaultI2iStrength)
  else none

variable {n : Node}

theorem isSeed_iff (settings : Settings) : n.IsSeed ↔ (n.seed? settings).isSome := by
  by_cases role : n.role = .controlNet .lights
  · rw [seed?, if_pos role, Option.isSome_map]
    exact ⟨fun h => h.image, fun h => ⟨role, h⟩⟩
  · rw [seed?, if_neg role]
    exact ⟨fun h => absurd h.role role, fun h => absurd h Bool.false_ne_true⟩

theorem seed?_eq_some {settings : Settings} {start : String × Float}
    (h : n.seed? settings = some start) : ∃ image, n.image? = some image ∧
      start = (image, (n.number? "strength").getD settings.defaultI2iStrength) := by
  unfold seed? at h
  split at h
  · obtain ⟨image, held, rfl⟩ := Option.map_eq_some_iff.1 h
    exact ⟨image, held, rfl⟩
  · cases h

end Node

namespace Lineage

variable {l : Lineage} {found : List Node}

/-- The contribution of one control-net, put in front of the others. -/
theorem split_contribution {n : Node} {c : Control} {first : Contribution}
    {later : List Contribution} (conditions : n.Conditions c)
    (made : l.contribution n c = .ok first)
    (rest : Split l.settings found (later.filterMap Contribution.entry?)
      (later.filterMap Contribution.step?)) :
    Split l.settings (n :: found) ((first :: later).filterMap Contribution.entry?)
      ((first :: later).filterMap Contribution.step?) := by
  unfold contribution at made
  split at made
  · rename_i model preprocessor hm hp
    split at made <;> cases made
    · rename_i guide _ guided
      exact .entry conditions guided hm rest
    · rename_i source unguided held
      exact .step conditions unguided held hm hp rest
    · rename_i unguided missing
      exact .idle conditions unguided missing rest
  · cases made

/-- The contributions of all control-nets split their nodes. -/
theorem split_contributions (hl : l.ancestors = found.map Node.classify)
    {contributed : List Contribution} (made : l.contributions l.controls = .ok contributed) :
    Split l.settings found (contributed.filterMap Contribution.entry?)
      (contributed.filterMap Contribution.step?) := by
  rw [controls, hl] at made
  clear hl
  induction found generalizing contributed with
  | nil =>
    cases made
    exact .nil
  | cons n rest ih =>
    rw [List.map_cons, List.filterMap_cons, Node.classify_role] at made
    split at made
    · rename_i passed
      refine .apart (fun c conditions => ?_) (ih made)
      obtain ⟨role, unseeded⟩ := conditions
      rw [role] at passed
      split at passed
      · rename_i same
        exact unseeded (Role.controlNet.inj same)
      · cases passed
      · rename_i other
        exact other c rfl
    · rename_i p picked
      obtain ⟨first, later, one, others, rfl⟩ := contributions_cons_eq_ok.1 made
      split at picked
      · cases picked
      · rename_i c unseeded role
        cases picked
        exact split_contribution ⟨role, unseeded⟩ one (ih others)
      · cases picked

theorem seedImage?_eq (hl : l.ancestors = found.map Node.classify) :
    l.seedImage? = found.findSome? (Node.seed? l.settings) := by
  rw [seedImage?, withRole, hl, ← List.head?_filterMap, List.filterMap_filter,
    List.filterMap_map, List.head?_filterMap]
  refine congrArg (List.findSome? · found) (funext fun n => ?_)
  by_cases role : n.role = .controlNet .lights <;> simp [Node.seed?, Node.classify, role]

/-- The call of a text-to-image request starts from the first seed image, whatever its entries. -/
theorem mainWith_startsFrom (hl : l.ancestors = found.map Node.classify)
    (entries : List ControlEntry) : StartsFrom l.settings found (l.mainWith entries) := by
  unfold mainWith
  cases given : l.seedImage? with
  | none =>
    rw [seedImage?_eq hl, List.findSome?_eq_none_iff] at given
    refine .nothing (fun n hn seed => ?_) rfl ?_ ?_
    · have some := (Node.isSeed_iff l.settings).1 seed
      rw [given n hn] at some
      cases some
    · simp [generativeParams]
    · simp [generativeParams]
  | some start =>
    rw [seedImage?_eq hl, FirstWith.of_findSome? fun _ => Node.isSeed_iff l.settings] at given
    obtain ⟨n, first, own⟩ := given
    obtain ⟨image, held, rfl⟩ := Node.seed?_eq_some own
    exact .seed first held rfl (by simp [withImage]) (by simp [withImage])

end Lineage

section

variable {settings : Settings} {nodes : List Node} {edges : List Edge} {target : NodeId}

/-- In a text-to-image request the control-nets among the ancestors are split between the entries of
the main call, for those with a guide, and the steps, for those with an image to make one from, each
in the order of the search and in no other way. Seed images are in neither; the first that can be
referred to is the one that the call starts from. -/
theorem compile_split {r : Request} (ok : compile settings nodes edges target = .ok r)
    (flow : r.flow = .textToImage) :
    let found := ancestors nodes edges target
    ∃ entries,
      (∀ es steps, Split settings found es steps ↔ es = entries ∧ steps = r.preprocess) ∧
      r.main.params.get? "controlnet" = nonempty? (entries.map ControlEntry.toJson) ∧
      StartsFrom settings found r.main := by
  intro found
  obtain ⟨contributed, prompts, rfl⟩ := Lineage.exists_prompts (compile_eq_ok.1 ok).2 flow
  have own : (lineageOf settings nodes edges target).ancestors = found.map Node.classify := rfl
  have split := Lineage.split_contributions own prompts.contributed
  refine ⟨contributed.filterMap Contribution.entry?, fun es steps => ⟨fun h => h.unique split, ?_⟩,
    Lineage.mainWith_controls _ _, Lineage.mainWith_startsFrom own _⟩
  rintro ⟨rfl, rfl⟩
  exact split

/-- A guide that is given, one that is to be made, a control-net with neither, and two seed images
of which only the second can be referred to. -/
theorem compile_split_seeded :
    let nodes : List Node := [⟨"out", "output", .null⟩,
      ⟨"bare", "control-net-canny", .null⟩,
      ⟨"pose", "control-net-pose", .obj [("imageId", .str "1")]⟩,
      ⟨"depth", "control-net-depth", .obj [("guideUrl", .str "/g"), ("imageId", .str "2")]⟩,
      ⟨"dark", "control-net-lights", .null⟩,
      ⟨"seed", "control-net-lights", .obj [("imageId", .str "3")]⟩]
    let edges : List Edge := nodes.map fun n => ⟨n.id, n.id, "out"⟩
    ∃ r entries, compile {} nodes edges "out" = .ok r ∧
      Split {} (ancestors nodes edges "out") entries r.preprocess ∧
      r.preprocess.map PreprocessStep.nodeId = ["pose"] ∧
      StartsFrom {} (ancestors nodes edges "out") r.main ∧
      r.main.params.get? "image" = some (.str "3") ∧
      (r.main.params.get? "controlnet").bind (listOf? ControlEntry.ofJson?) = some entries ∧
      entries.map (fun e => (e.image, e.strength, e.model, e.control)) =
        [("/g", 1, "controlnet-depth-sdxl", "depth")] := by
  intro nodes edges
  have shape : (compile {} nodes edges "out").toOption.map (fun r =>
      (r.flow, r.preprocess.map PreprocessStep.nodeId,
        (r.main.params.get? "image").bind Json.string?)) =
      some (.textToImage, ["pose"], some "3") := by
    decide +kernel
  have written : ((compile {} nodes edges "out").toOption.bind fun r =>
      ((r.main.params.get? "controlnet").bind (listOf? ControlEntry.ofJson?)).map
        (List.map fun e => (e.image, e.strength, e.model, e.control))) =
      some [("/g", 1, "controlnet-depth-sdxl", "depth")] := by
    decide +kernel
  cases ok : compile {} nodes edges "out" with
  | error e => rw [ok] at shape; cases shape
  | ok r =>
    rw [ok] at shape written
    simp only [Except.toOption, Option.map_some, Option.some.injEq, Prod.mk.injEq] at shape
    obtain ⟨flow, steps, image⟩ := shape
    obtain ⟨entries, split, listed, starts⟩ := compile_split ok flow
    obtain ⟨read, back, fields⟩ := Option.map_eq_some_iff.1 written
    have same : read = entries := by
      rw [listed, listOf?_nonempty ControlEntry.ofJson?_toJson] at back
      split at back
      · exact (Option.some.inj back).symm
      · cases back
    subst same
    refine ⟨r, read, rfl, (split _ _).2 ⟨rfl, rfl⟩, steps, starts, ?_, back, fields⟩
    obtain ⟨j, there, text⟩ := Option.bind_eq_some_iff.1 image
    cases j <;> cases text
    exact there

end

end ImageGraph
