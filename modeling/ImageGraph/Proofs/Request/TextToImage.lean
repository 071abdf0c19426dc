import ImageGraph.Proofs.Graph.Merge
import ImageGraph.Request.Compile

/-! Text-to-image requests. Their steps and the entries of their main call are what the control-nets
contribute; a call takes further entries as if its control-nets had contributed them. -/

namespace ImageGraph

open Json

attribute [ext] MainStep

theorem bind_eq_ok {α β ε : Type} {x : Except ε α} {f : α → Except ε β} {b : β} :
    x >>= f = .ok b ↔ ∃ a, x = .ok a ∧ f a = .ok b := by
  cases x <;> simp [bind, Except.bind]

theorem either_of_orElse {α : Type} {x y : Option α} {a : α} (h : (x <|> y) = some a) :
    x = some a ∨ y = some a := by
  cases x with
  | none => exact .inr h
  | some b => exact .inl h

theorem exists_ok_of_isOk {α ε : Type} {x : Except ε α} (h : x.isOk) : ∃ a, x = .ok a := by
  cases x with
  | error e => cases h
  | ok a => exact ⟨a, rfl⟩

/-- What is read off an outcome is read off a result. -/
theorem exists_ok_of_map {α β ε : Type} {x : Except ε α} {f : α → β} {b : β}
    (h : x.toOption.map f = some b) : ∃ a, x = .ok a ∧ f a = b := by
  cases x with
  | error e => cases h
  | ok a => exact ⟨a, rfl, Option.some.inj h⟩

theorem Json.nonempty?_eq_some {items : List Json} {j : Json} :
    nonempty? items = some j ↔ ∃ first rest, items = first :: rest ∧ j = .arr items := by
  cases items <;> simp [nonempty?, eq_comm]

theorem mem_of_firstTool? {found : List Classified} {a : Classified} {t : Tool}
    (h : firstTool? found = some (a, t)) : a ∈ found ∧ a.role = .tool t := by
  obtain ⟨b, hb, first⟩ := List.exists_of_findSome?_eq_some h
  split at first <;> cases first
  exact ⟨hb, ‹_›⟩

theorem mem_of_firstKontext? {found : List Classified} {a : Classified} {k : Kontext}
    (h : firstKontext? found = some (a, k)) : a ∈ found ∧ a.role = .kontext k := by
  obtain ⟨b, hb, first⟩ := List.exists_of_findSome?_eq_some h
  split at first <;> cases first
  exact ⟨hb, ‹_›⟩

/-- The main call with entries added, one after the other. -/
def MainStep.withControls (main : MainStep) (entries : List ControlEntry) : MainStep :=
  entries.foldl MainStep.addControl main

namespace Lineage

variable {l : Lineage} {controls : List (Node × Control)} {found : List Contribution}

/-! ### The contributions of control-nets -/

/-- The contributions of control-nets, one each and in their order. -/
def contributions (l : Lineage) (controls : List (Node × Control)) :
    Except CompileError (List Contribution) :=
  controls.mapM fun p => l.contribution p.1 p.2

theorem contributions_cons_eq_ok {p : Node × Control} {rest : List (Node × Control)} :
    l.contributions (p :: rest) = .ok found ↔ ∃ first later,
      l.contribution p.1 p.2 = .ok first ∧ l.contributions rest = .ok later ∧
        found = first :: later := by
  rw [contributions, List.mapM_cons, ← contributions]
  constructor
  · intro h
    obtain ⟨first, hf, h⟩ := bind_eq_ok.1 h
    obtain ⟨later, hl, h⟩ := bind_eq_ok.1 h
    cases h
    exact ⟨first, later, hf, hl, rfl⟩
  · rintro ⟨first, later, hf, hl, rfl⟩
    exact bind_eq_ok.2 ⟨first, hf, bind_eq_ok.2 ⟨later, hl, rfl⟩⟩

theorem contribution_eq_step {n : Node} {c : Control} {s : PreprocessStep}
    (h : l.contribution n c = .ok (.step s)) :
    ∃ model preprocessor source, c.model? = some model ∧ c.preprocessor? = some preprocessor ∧
      s = ⟨n.id, c, source, preprocessor,
        (n.number? "strength").getD l.settings.defaultControlnetStrength, model⟩ := by
  unfold contribution at h
  split at h
  · next model preprocessor hm hp =>
    split at h <;> cases h
    exact ⟨model, preprocessor, _, hm, hp, rfl⟩
  · cases h

theorem steps_sublist (h : l.contributions controls = .ok found) :
    ((found.filterMap Contribution.step?).map PreprocessStep.nodeId).Sublist
      (controls.map fun p => p.1.id) := by
  induction controls generalizing found with
  | nil => cases h; exact .slnil
  | cons p rest ih =>
    obtain ⟨first, later, hf, hr, rfl⟩ := contributions_cons_eq_ok.1 h
    cases first with
    | entry e => exact (ih hr).cons _
    | nothing => exact (ih hr).cons _
    | step s =>
      obtain ⟨_, _, _, -, -, rfl⟩ := contribution_eq_step hf
      exact (ih hr).cons_cons _

theorem unguided_of_contribution {n : Node} {c : Control} {s : PreprocessStep}
    (h : l.contribution n c = .ok (.step s)) : n.text? "guideUrl" = none := by
  unfold contribution at h
  split at h
  · split at h <;> cases h
    assumption
  · cases h

/-- Each contribution is that of a control-net. -/
theorem exists_control (h : l.contributions controls = .ok found) {c : Contribution}
    (hc : c ∈ found) : ∃ p ∈ controls, l.contribution p.1 p.2 = .ok c := by
  induction controls generalizing found with
  | nil =>
    cases h
    cases hc
  | cons p rest ih =>
    obtain ⟨first, later, hf, hr, rfl⟩ := contributions_cons_eq_ok.1 h
    obtain rfl | hc := List.mem_cons.1 hc
    · exact ⟨p, List.mem_cons_self, hf⟩
    · obtain ⟨q, hq, made⟩ := ih hr hc
      exact ⟨q, List.mem_cons_of_mem _ hq, made⟩

/-- A guide is made for a control-net that has none. -/
theorem unguided_of_mem_steps (h : l.contributions controls = .ok found) {s : PreprocessStep}
    (hs : s ∈ found.filterMap Contribution.step?) :
    ∃ p ∈ controls, p.1.id = s.nodeId ∧ p.1.text? "guideUrl" = none := by
  obtain ⟨c, hc, step⟩ := List.mem_filterMap.1 hs
  obtain ⟨p, hp, made⟩ := exists_control h hc
  cases c with
  | entry e => cases step
  | nothing => cases step
  | step own =>
    cases step
    obtain ⟨_, _, _, -, -, rfl⟩ := contribution_eq_step made
    exact ⟨p, hp, rfl, unguided_of_contribution made⟩

theorem node_of_mem_controls {p : Node × Control} (h : p ∈ l.controls) :
    ∃ a ∈ l.ancestors, a.node = p.1 ∧ a.role = .controlNet p.2 := by
  obtain ⟨a, ha, hp⟩ := List.mem_filterMap.1 h
  refine ⟨a, ha, ?_⟩
  split at hp <;> cases hp
  exact ⟨rfl, ‹_›⟩

theorem controls_nodup (h : (l.ancestors.map fun a => a.node.id).Nodup) :
    (l.controls.map fun p => p.1.id).Nodup := by
  rw [List.Nodup, List.pairwise_map] at h ⊢
  refine List.pairwise_filterMap.2 (h.imp fun {a b} different p hp q hq => ?_)
  have first : p.1 = a.node := by split at hp <;> cases hp; rfl
  have second : q.1 = b.node := by split at hq <;> cases hq; rfl
  rwa [first, second]

/-! ### The main call -/

/-- The main call of a text-to-image request with the given entries. -/
def mainWith (l : Lineage) (entries : List ControlEntry) : MainStep :=
  let params := l.generativeParams.insertSome "controlnet"
    (nonempty? (entries.map ControlEntry.toJson))
  match l.seedImage? with
  | some (image, strength) => ⟨.img2img, withImage params image strength⟩
  | none => ⟨.txt2img, params⟩

theorem mainWith_method (l : Lineage) (xs ys : List ControlEntry) :
    (l.mainWith xs).method = (l.mainWith ys).method := by
  unfold mainWith
  cases l.seedImage? <;> rfl

theorem mainWith_controls (l : Lineage) (entries : List ControlEntry) :
    (l.mainWith entries).params.get? "controlnet" =
      nonempty? (entries.map ControlEntry.toJson) := by
  have absent : l.generativeParams.get? "controlnet" = none := by simp [generativeParams]
  unfold mainWith
  cases l.seedImage? <;> simp [withImage, absent]

theorem mainWith_others (l : Lineage) (xs ys : List ControlEntry) {key : String}
    (h : key ≠ "controlnet") :
    (l.mainWith xs).params.get? key = (l.mainWith ys).params.get? key := by
  unfold mainWith
  cases l.seedImage? <;> simp [withImage, h]

theorem addControl_mainWith (l : Lineage) (entries : List ControlEntry) (e : ControlEntry) :
    (l.mainWith entries).addControl e = l.mainWith (entries ++ [e]) := by
  refine MainStep.ext (l.mainWith_method entries (entries ++ [e])) (Object.ext_get? fun key => ?_)
  rw [MainStep.addControl, mainWith_controls, Object.get?_insert]
  by_cases hk : key = "controlnet"
  · rw [if_pos hk, hk, mainWith_controls]
    cases entries <;> simp [nonempty?, array?]
  · rw [if_neg hk]
    exact l.mainWith_others _ _ hk

theorem withControls_mainWith (l : Lineage) (entries added : List ControlEntry) :
    (l.mainWith entries).withControls added = l.mainWith (entries ++ added) := by
  induction added generalizing entries with
  | nil => rw [List.append_nil]; rfl
  | cons e rest ih =>
    calc (l.mainWith entries).withControls (e :: rest)
        = ((l.mainWith entries).addControl e).withControls rest := rfl
      _ = l.mainWith (entries ++ [e] ++ rest) := by rw [addControl_mainWith, ih]
      _ = l.mainWith (entries ++ e :: rest) := by rw [List.append_assoc, List.singleton_append]

/-! ### The request and its flow -/

/-- The text-to-image request with what the control-nets contribute. -/
def withContributions (l : Lineage) (found : List Contribution) : Request where
  flow := .textToImage
  preprocess := found.filterMap Contribution.step?
  main := l.mainWith (found.filterMap Contribution.entry?)

theorem textToImage_eq (l : Lineage) :
    l.textToImage = (l.contributions l.controls).map l.withContributions := by
  unfold textToImage contributions
  cases l.controls.mapM fun p => l.contribution p.1 p.2 <;> rfl

/-- The lineage calls for a text-to-image request, and these are its contributions. -/
structure Prompts (l : Lineage) (found : List Contribution) : Prop where
  supported : l.unsupported? = none
  flow : Flow.of l.ancestors = .textToImage
  contributed : l.contributions l.controls = .ok found

theorem Prompts.request (h : l.Prompts found) : l.request = .ok (l.withContributions found) := by
  rw [Lineage.request, h.supported, h.flow]
  simp only [textToImage_eq, h.contributed]
  rfl

/-- What a request is made from, flow by flow. -/
inductive Makes (l : Lineage) : Request → Prop where
  | tool {a : Classified} {t : Tool} {image : String} {main : MainStep} :
      Flow.of l.ancestors = .tool → firstTool? l.ancestors = some (a, t) →
      l.baseImage? = some image →
      l.toolStep a.node (Object.empty.insert "image" (.str image)) t = .ok main →
      Makes l ⟨.tool, [], main⟩
  | kontext {a : Classified} {k : Kontext} {main : MainStep} :
      Flow.of l.ancestors = .kontext → firstKontext? l.ancestors = some (a, k) →
      l.kontextStep a.node k = .ok main → Makes l ⟨.kontext, [], main⟩
  | imageToImage {image : String} :
      Flow.of l.ancestors = .imageToImage → l.baseImage? = some image →
      Makes l ⟨.imageToImage, [], .img2img, withImage l.generativeParams image l.imageStrength⟩
  | textToImage {found : List Contribution} :
      l.Prompts found → Makes l (l.withContributions found)

theorem requireBase_eq_ok {flow image : String} :
    l.requireBase flow = .ok image ↔ l.baseImage? = some image := by
  unfold requireBase
  cases l.baseImage? <;> simp

theorem request_makes {r : Request} (h : l.request = .ok r) : l.Makes r := by
  unfold request at h
  split at h
  · cases h
  · rename_i supported
    split at h <;> rename_i called
    · unfold tool at h
      split at h
      · cases h
      · rename_i first
        obtain ⟨image, base, h⟩ := bind_eq_ok.1 h
        obtain ⟨main, step, h⟩ := bind_eq_ok.1 h
        cases h
        exact .tool called first (requireBase_eq_ok.1 base) step
    · unfold kontext at h
      split at h
      · cases h
      · rename_i a k first
        cases step : l.kontextStep a.node k <;> rw [step] at h <;> cases h
        exact .kontext called first step
    · unfold imageToImage at h
      split at h <;> cases h
      exact .imageToImage called ‹_›
    · rw [textToImage_eq] at h
      cases contributed : l.contributions l.controls <;> rw [contributed] at h <;> cases h
      exact .textToImage ⟨supported, called, contributed⟩

theorem exists_prompts {r : Request} (h : l.request = .ok r) (flow : r.flow = .textToImage) :
    ∃ found, l.Prompts found ∧ r = l.withContributions found := by
  cases request_makes h with
  | tool | kontext | imageToImage => cases flow
  | textToImage prompts => exact ⟨_, prompts, rfl⟩

/-- What is made is made for the flow that the ancestors call for. -/
theorem request_flow {r : Request} (h : l.request = .ok r) : r.flow = Flow.of l.ancestors := by
  cases request_makes h with
  | tool called | kontext called | imageToImage called => exact called.symm
  | textToImage prompts => exact prompts.flow.symm

/-- No request asks for two guides of one node, or for a guide of a node that has one. -/
theorem preprocess_once {r : Request} (h : l.request = .ok r)
    (unique : (l.ancestors.map fun a => a.node.id).Nodup) :
    (r.preprocess.map PreprocessStep.nodeId).Nodup ∧
      ∀ s ∈ r.preprocess, ∃ a ∈ l.ancestors, a.node.id = s.nodeId ∧
        a.node.text? "guideUrl" = none := by
  cases request_makes h with
  | tool | kontext | imageToImage =>
    exact ⟨List.nodup_nil, fun s hs => (List.not_mem_nil hs).elim⟩
  | textToImage prompts =>
    refine ⟨(steps_sublist prompts.contributed).nodup (controls_nodup unique), fun s hs => ?_⟩
    obtain ⟨p, hp, same, unguided⟩ := unguided_of_mem_steps prompts.contributed hs
    obtain ⟨a, ha, node, -⟩ := node_of_mem_controls hp
    exact ⟨a, ha, node ▸ same, node ▸ unguided⟩

end Lineage

end ImageGraph
