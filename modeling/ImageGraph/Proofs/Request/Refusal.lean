import ImageGraph.Proofs.Request.Fault
import ImageGraph.Proofs.Request.Reading

/-! Why a graph yields no request. The conditions are read off the ancestors of the target in the
order of the search: an unsupported node comes before everything else, then the roles call for a
flow, and each flow misses its images in an order of its own. -/

namespace ImageGraph

/-- Of nodes in a list, the first with a property. -/
inductive FirstWith (P : Node → Prop) : List Node → Node → Prop where
  | here {n : Node} {rest : List Node} : P n → FirstWith P (n :: rest) n
  | later {m n : Node} {rest : List Node} : ¬ P m → FirstWith P rest n → FirstWith P (m :: rest) n

namespace Node

def IsTool (n : Node) : Prop :=
  ∃ t, n.role = .tool t

def IsKontext (n : Node) : Prop :=
  ∃ k, n.role = .kontext k

def IsUnsupported (n : Node) : Prop :=
  ∃ subtype, n.role = .unsupported subtype

/-- A control-net of a kind that no model takes. -/
def IsUnknownControl (n : Node) : Prop :=
  ∃ name, n.role = .controlNet (.other name)

end Node

/-- The flow that ancestors call for. -/
inductive Flow.CalledBy (found : List Node) : Flow → Prop where
  | tool : (∃ n ∈ found, n.IsTool) → CalledBy found .tool
  | kontext : (∀ n ∈ found, ¬ n.IsTool) → (∃ n ∈ found, n.IsKontext) → CalledBy found .kontext
  | imageToImage : (∀ n ∈ found, ¬ n.IsTool) → (∀ n ∈ found, ¬ n.IsKontext) →
      (∃ n ∈ found, n.role = .imageToImage) → CalledBy found .imageToImage
  | textToImage : (∀ n ∈ found, ¬ n.IsTool) → (∀ n ∈ found, ¬ n.IsKontext) →
      (∀ n ∈ found, n.role ≠ .imageToImage) → CalledBy found .textToImage

/-- An ancestor that may supply an image. The target itself may not. -/
structure Candidate (found : List Node) (target : NodeId) (n : Node) : Prop where
  mem : n ∈ found
  other : n.id ≠ target
  role : n.role.mayHoldBase = true

def NoBaseImage (found : List Node) (target : NodeId) : Prop :=
  ∀ n, Candidate found target n → n.image? = none

def NoTaggedImage (found : List Node) (target : NodeId) (tag : String) : Prop :=
  ∀ n, Candidate found target n → n.HasTag tag → n.image? = none

/-- What each flow refuses. -/
inductive FlowRefusal (found : List Node) (target : NodeId) : Flow → CompileError → Prop where
  | toolWithoutImage {n : Node} {t : Tool} :
      FirstWith Node.IsTool found n → n.role = .tool t → NoBaseImage found target →
      FlowRefusal found target .tool (.missingBaseImage t.name)
  | inpaintWithoutMask {n : Node} :
      FirstWith Node.IsTool found n → n.role = .tool .inpaint → ¬ NoBaseImage found target →
      n.mask? = none → (∀ m, Candidate found target m → m.mask? = none) →
      FlowRefusal found target .tool .missingMask
  | kontextWithoutImage {n : Node} {k : Kontext} :
      FirstWith Node.IsKontext found n → n.role = .kontext k → k = .reference ∨ k = .reangle →
      NoBaseImage found target → FlowRefusal found target .kontext (.missingBaseImage k.name)
  | resceneWithoutScene {n : Node} :
      FirstWith Node.IsKontext found n → n.role = .kontext .rescene →
      NoTaggedImage found target "SCENE" →
      FlowRefusal found target .kontext (.missingTaggedImage "SCENE")
  | resceneWithoutObject {n : Node} :
      FirstWith Node.IsKontext found n → n.role = .kontext .rescene →
      ¬ NoTaggedImage found target "SCENE" → NoTaggedImage found target "OBJECT" →
      FlowRefusal found target .kontext (.missingTaggedImage "OBJECT")
  | remixWithoutImage {n : Node} :
      FirstWith Node.IsKontext found n → n.role = .kontext .remix → NoBaseImage found target →
      FlowRefusal found target .kontext (.missingImages Kontext.remix.name)
  | imageToImageWithoutImage :
      NoBaseImage found target →
      FlowRefusal found target .imageToImage (.missingBaseImage Flow.imageToImage.name)
  | unknownControl {n : Node} {name : String} :
      FirstWith Node.IsUnknownControl found n → n.role = .controlNet (.other name) →
      FlowRefusal found target .textToImage (.unsupportedSubtype n.id name)

/-- Why there is no request for a target. -/
inductive Refusal (nodes : List Node) (edges : List Edge) (target : NodeId) :
    CompileError → Prop where
  | unknownNode : (∀ n ∈ nodes, n.id ≠ target) → Refusal nodes edges target (.unknownNode target)
  | unsupported {n : Node} {subtype : String} :
      FirstWith Node.IsUnsupported (ancestors nodes edges target) n →
      n.role = .unsupported subtype →
      Refusal nodes edges target (.unsupportedSubtype n.id subtype)
  | flow {flow : Flow} {e : CompileError} :
      (∃ n ∈ nodes, n.id = target) →
      (∀ n ∈ ancestors nodes edges target, ¬ n.IsUnsupported) →
      flow.CalledBy (ancestors nodes edges target) →
      FlowRefusal (ancestors nodes edges target) target flow e →
      Refusal nodes edges target e

variable {found : List Node}

namespace FirstWith

variable {P : Node → Prop} {m n : Node} {rest : List Node}

theorem cons_iff : FirstWith P (m :: rest) n ↔ P m ∧ n = m ∨ ¬ P m ∧ FirstWith P rest n := by
  constructor
  · intro h
    cases h with
    | here hp => exact .inl ⟨hp, rfl⟩
    | later hp h => exact .inr ⟨hp, h⟩
  · rintro (⟨hp, rfl⟩ | ⟨hp, h⟩)
    · exact .here hp
    · exact .later hp h

theorem unique (h : FirstWith P found m) (h' : FirstWith P found n) : m = n := by
  induction h with
  | here hp =>
    cases h' with
    | here => rfl
    | later hn => exact absurd hp hn
  | later hn _ ih =>
    cases h' with
    | here hp => exact absurd hp hn
    | later _ h' => exact ih h'

/-- A reader that answers for the nodes with a property finds the first of them. -/
theorem of_findSome? {β : Type} {f : Node → Option β} {b : β} (hf : ∀ n, P n ↔ (f n).isSome) :
    found.findSome? f = some b ↔ ∃ n, FirstWith P found n ∧ f n = some b := by
  induction found with
  | nil =>
    constructor
    · intro h
      cases h
    · rintro ⟨n, h, -⟩
      cases h
  | cons m rest ih =>
    rw [List.findSome?_cons]
    simp only [cons_iff]
    cases hm : f m with
    | none =>
      have hp : ¬ P m := by simp [hf, hm]
      simp only [hp, false_and, not_false_eq_true, true_and, false_or, ih]
    | some c =>
      have hp : P m := by simp [hf, hm]
      simp [hp, hm]

end FirstWith

/-! ### Readers of one kind of role -/

/-- A reader that answers for the roles of one kind, with the node and what its role says. -/
def Reads {β : Type} (kind : β → Role) (f : Classified → Option (Classified × β)) : Prop :=
  ∀ (n : Node) (a : Classified) (b : β),
    f n.classify = some (a, b) ↔ n.role = kind b ∧ a = n.classify

section

variable {β : Type} {kind : β → Role} {f : Classified → Option (Classified × β)}
  (reads : Reads kind f)
include reads

theorem Reads.isSome (n : Node) : (∃ b, n.role = kind b) ↔ (f n.classify).isSome := by
  simp only [Option.isSome_iff_exists, Prod.exists, reads n]
  constructor
  · rintro ⟨b, role⟩
    exact ⟨n.classify, b, role, rfl⟩
  · rintro ⟨-, b, role, -⟩
    exact ⟨b, role⟩

theorem FirstWith.of_reader {a : Classified} {b : β} :
    (found.map Node.classify).findSome? f = some (a, b) ↔
      ∃ n, FirstWith (fun n => ∃ b, n.role = kind b) found n ∧ n.role = kind b ∧
        a = n.classify := by
  rw [List.findSome?_map, FirstWith.of_findSome? (f := f ∘ Node.classify) reads.isSome]
  exact exists_congr fun n => and_congr_right fun _ => reads n a b

theorem isSome_of_reader :
    ((found.map Node.classify).findSome? f).isSome ↔ ∃ n ∈ found, ∃ b, n.role = kind b := by
  rw [List.findSome?_map, List.findSome?_isSome_iff]
  exact exists_congr fun n => and_congr_right fun _ => (reads.isSome n).symm

end

theorem reads_tool : Reads Role.tool fun a =>
    match a.role with
    | .tool t => some (a, t)
    | _ => none := by
  intro n a t
  simp only [n.classify_role]
  cases n.role <;> simp [and_comm, eq_comm]

theorem reads_kontext : Reads Role.kontext fun a =>
    match a.role with
    | .kontext k => some (a, k)
    | _ => none := by
  intro n a k
  simp only [n.classify_role]
  cases n.role <;> simp [and_comm, eq_comm]

namespace Lineage

variable {l : Lineage} {e : CompileError}

/-! ### What a lineage reads from its nodes -/

section

variable (hl : l.ancestors = found.map Node.classify)
include hl

theorem firstTool?_eq_some {a : Classified} {t : Tool} :
    firstTool? l.ancestors = some (a, t) ↔
      ∃ n, FirstWith Node.IsTool found n ∧ n.role = .tool t ∧ a = n.classify := by
  rw [firstTool?, hl]
  exact FirstWith.of_reader reads_tool

theorem isSome_firstTool? : (firstTool? l.ancestors).isSome ↔ ∃ n ∈ found, n.IsTool := by
  rw [firstTool?, hl]
  exact isSome_of_reader reads_tool

theorem firstKontext?_eq_some {a : Classified} {k : Kontext} :
    firstKontext? l.ancestors = some (a, k) ↔
      ∃ n, FirstWith Node.IsKontext found n ∧ n.role = .kontext k ∧ a = n.classify := by
  rw [firstKontext?, hl]
  exact FirstWith.of_reader reads_kontext

theorem isSome_firstKontext? : (firstKontext? l.ancestors).isSome ↔ ∃ n ∈ found, n.IsKontext := by
  rw [firstKontext?, hl]
  exact isSome_of_reader reads_kontext

theorem unsupported?_eq_some :
    l.unsupported? = some e ↔ ∃ n subtype, FirstWith Node.IsUnsupported found n ∧
      n.role = .unsupported subtype ∧ e = .unsupportedSubtype n.id subtype := by
  rw [unsupported?, hl, List.findSome?_map, FirstWith.of_findSome? (P := Node.IsUnsupported)]
  · refine exists_congr fun n => ?_
    cases hr : n.role <;> simp [Node.classify, hr, eq_comm]
  · intro n
    cases hr : n.role <;> simp [Node.classify, Node.IsUnsupported, hr]

theorem unsupported?_eq_none : l.unsupported? = none ↔ ∀ n ∈ found, ¬ n.IsUnsupported := by
  rw [unsupported?, hl, List.findSome?_map, List.findSome?_eq_none_iff]
  refine forall_congr' fun n => imp_congr_right fun _ => ?_
  cases hr : n.role <;> simp [Node.classify, Node.IsUnsupported, hr]

theorem withRole_eq (r : Role) :
    l.withRole r = (found.filter fun n => n.role = r).map Node.classify := by
  rw [withRole, hl, List.filter_map]
  refine congrArg (List.map Node.classify) (List.filter_congr fun n _ => ?_)
  rw [Function.comp_apply, n.classify_role]
  exact Bool.eq_iff_iff.2 (by simp)

theorem mem_candidates {a : Classified} :
    a ∈ l.candidates ↔ ∃ n, Candidate found l.target n ∧ n.classify = a := by
  simp only [candidates, hl, List.mem_filter, List.mem_map, Bool.and_eq_true, bne_iff_ne]
  constructor
  · rintro ⟨⟨n, hn, rfl⟩, other, role⟩
    rw [n.classify_role] at role
    exact ⟨n, ⟨hn, other, role⟩, rfl⟩
  · rintro ⟨n, ⟨hn, other, role⟩, rfl⟩
    rw [← n.classify_role] at role
    exact ⟨⟨n, hn, rfl⟩, other, role⟩

theorem forall_candidates {P : Node → Prop} :
    (∀ a ∈ l.candidates, P a.node) ↔ ∀ n, Candidate found l.target n → P n := by
  constructor
  · intro h n hn
    exact h n.classify ((mem_candidates hl).2 ⟨n, hn, rfl⟩)
  · intro h a ha
    obtain ⟨n, hn, rfl⟩ := (mem_candidates hl).1 ha
    exact h n hn

theorem baseImage?_eq_none : l.baseImage? = none ↔ NoBaseImage found l.target := by
  rw [baseImage?, List.findSome?_eq_none_iff]
  exact forall_candidates (P := fun n => n.image? = none) hl

theorem maskFor?_eq_none {n : Node} :
    l.maskFor? n = none ↔
      n.mask? = none ∧ ∀ m, Candidate found l.target m → m.mask? = none := by
  rw [← forall_candidates hl, ← List.findSome?_eq_none_iff, maskFor?]
  cases n.mask? <;> simp

theorem noneTagged_iff {tag : String} : l.NoneTagged tag ↔ NoTaggedImage found l.target tag :=
  forall_candidates (P := fun n => n.HasTag tag → n.image? = none) hl

theorem adapters_eq_nil : l.adapters = [] ↔ NoBaseImage found l.target := by
  rw [NoBaseImage, ← forall_candidates hl, adapters, List.filterMap_eq_nil_iff]
  simp

theorem flow_calledBy : (Flow.of l.ancestors).CalledBy found := by
  have image : (l.ancestors.any fun a => a.role == .imageToImage) ↔
      ∃ n ∈ found, n.role = .imageToImage := by
    simp [hl, Node.classify_role]
  unfold Flow.of
  split
  · rename_i tool
    exact .tool ((isSome_firstTool? hl).1 tool)
  · rename_i no_tool
    have no_tool : ∀ n ∈ found, ¬ n.IsTool := fun n hn tool =>
      no_tool ((isSome_firstTool? hl).2 ⟨n, hn, tool⟩)
    split
    · rename_i kontext
      exact .kontext no_tool ((isSome_firstKontext? hl).1 kontext)
    · rename_i no_kontext
      have no_kontext : ∀ n ∈ found, ¬ n.IsKontext := fun n hn kontext =>
        no_kontext ((isSome_firstKontext? hl).2 ⟨n, hn, kontext⟩)
      split
      · rename_i plain
        exact .imageToImage no_tool no_kontext (image.1 plain)
      · rename_i not_plain
        exact .textToImage no_tool no_kontext fun n hn role => not_plain (image.2 ⟨n, hn, role⟩)

/-- The first control-net of an unknown kind is the one that is refused, and no other is. -/
theorem contributions_controls_eq_error :
    l.contributions l.controls = .error e ↔
      ∃ n name, FirstWith Node.IsUnknownControl found n ∧
        n.role = .controlNet (.other name) ∧ e = .unsupportedSubtype n.id name := by
  rw [controls, hl]
  clear hl
  induction found with
  | nil =>
    simp only [List.map_nil, List.filterMap_nil]
    constructor
    · intro h
      cases h
    · rintro ⟨n, name, first, -⟩
      cases first
  | cons m rest ih =>
    rw [List.map_cons, List.filterMap_cons, Node.classify_role]
    by_cases unknown : m.IsUnknownControl
    · obtain ⟨name, role⟩ := unknown
      have refused : l.contribution m (.other name) = .error (.unsupportedSubtype m.id name) :=
        (contribution_eq_error (by simp)).2 ⟨name, rfl, rfl⟩
      have here : FirstWith Node.IsUnknownControl (m :: rest) m := .here ⟨name, role⟩
      simp only [role, contributions_cons_eq_error, Node.classify, refused]
      constructor
      · rintro (⟨⟨⟩⟩ | ⟨accepted, -⟩)
        · exact ⟨m, name, here, role, rfl⟩
        · exact absurd rfl (accepted _)
      · rintro ⟨n, other, first, hr, rfl⟩
        obtain rfl := first.unique here
        obtain rfl := Control.other.inj (Role.controlNet.inj (hr.symm.trans role))
        exact .inl rfl
    · have skip : (∃ n name, FirstWith Node.IsUnknownControl (m :: rest) n ∧
            n.role = .controlNet (.other name) ∧ e = .unsupportedSubtype n.id name) ↔
          ∃ n name, FirstWith Node.IsUnknownControl rest n ∧
            n.role = .controlNet (.other name) ∧ e = .unsupportedSubtype n.id name := by
        simp only [FirstWith.cons_iff, unknown, false_and, not_false_eq_true, true_and, false_or]
      rw [skip, ← ih]
      split
      · rfl
      · rename_i p hm
        have accepted : ∀ e, l.contribution p.1 p.2 ≠ .error e := by
          intro e refused
          split at hm
          · cases hm
          · rename_i c seed role
            cases hm
            obtain ⟨name, rfl, -⟩ := (contribution_eq_error seed).1 refused
            exact unknown ⟨name, role⟩
          · cases hm
        rw [contributions_cons_eq_error]
        constructor
        · rintro (refused | ⟨-, h⟩)
          · exact absurd refused (accepted e)
          · exact h
        · exact fun h => .inr ⟨accepted, h⟩

/-! ### The flows by their ancestors -/

theorem tool_refusal (called : ∃ n ∈ found, n.IsTool) :
    l.tool = .error e ↔ FlowRefusal found l.target .tool e := by
  obtain ⟨⟨a, t⟩, hf⟩ := Option.isSome_iff_exists.1 ((isSome_firstTool? hl).2 called)
  obtain ⟨n, first, role, rfl⟩ := (firstTool?_eq_some hl).1 hf
  rw [tool_eq_error hf, ne_eq, baseImage?_eq_none hl, maskFor?_eq_none hl]
  constructor
  · rintro (⟨base, rfl⟩ | ⟨base, rfl, ⟨own, others⟩, rfl⟩)
    · exact .toolWithoutImage first role base
    · exact .inpaintWithoutMask first role base own others
  · intro h
    cases h with
    | toolWithoutImage hm hs base =>
      obtain rfl := hm.unique first
      obtain rfl := Role.tool.inj (hs.symm.trans role)
      exact .inl ⟨base, rfl⟩
    | inpaintWithoutMask hm hs base own others =>
      obtain rfl := hm.unique first
      exact .inr ⟨base, Role.tool.inj (role.symm.trans hs), ⟨own, others⟩, rfl⟩

theorem kontext_refusal (called : ∃ n ∈ found, n.IsKontext) :
    l.kontext = .error e ↔ FlowRefusal found l.target .kontext e := by
  obtain ⟨⟨a, k⟩, hf⟩ := Option.isSome_iff_exists.1 ((isSome_firstKontext? hl).2 called)
  obtain ⟨n, first, role, rfl⟩ := (firstKontext?_eq_some hl).1 hf
  rw [kontext_eq_error hf, kontextStep_eq_error]
  simp only [baseImage?_eq_none hl, noneTagged_iff hl, adapters_eq_nil hl]
  constructor
  · intro h
    cases k with
    | reference => exact h.2 ▸ .kontextWithoutImage first role (.inl rfl) h.1
    | reangle => exact h.2 ▸ .kontextWithoutImage first role (.inr rfl) h.1
    | rescene =>
      obtain ⟨scene, rfl⟩ | ⟨scene, object, rfl⟩ := h
      · exact .resceneWithoutScene first role scene
      · exact .resceneWithoutObject first role scene object
    | remix => exact h.2 ▸ .remixWithoutImage first role h.1
  · intro h
    cases h with
    | kontextWithoutImage hm hs kind base =>
      obtain rfl := hm.unique first
      obtain rfl := Role.kontext.inj (hs.symm.trans role)
      obtain rfl | rfl := kind <;> exact ⟨base, rfl⟩
    | resceneWithoutScene hm hs scene =>
      obtain rfl := hm.unique first
      obtain rfl := Role.kontext.inj (hs.symm.trans role)
      exact .inl ⟨scene, rfl⟩
    | resceneWithoutObject hm hs scene object =>
      obtain rfl := hm.unique first
      obtain rfl := Role.kontext.inj (hs.symm.trans role)
      exact .inr ⟨scene, object, rfl⟩
    | remixWithoutImage hm hs base =>
      obtain rfl := hm.unique first
      obtain rfl := Role.kontext.inj (hs.symm.trans role)
      exact ⟨base, rfl⟩

theorem imageToImage_refusal :
    l.imageToImage = .error e ↔ FlowRefusal found l.target .imageToImage e := by
  rw [imageToImage_eq_error, baseImage?_eq_none hl]
  constructor
  · rintro ⟨base, rfl⟩
    exact .imageToImageWithoutImage base
  · rintro ⟨⟩
    rename_i base
    exact ⟨base, rfl⟩

theorem textToImage_refusal :
    l.textToImage = .error e ↔ FlowRefusal found l.target .textToImage e := by
  rw [textToImage_eq_error, contributions_controls_eq_error hl]
  constructor
  · rintro ⟨n, name, first, role, rfl⟩
    exact .unknownControl first role
  · rintro ⟨⟩
    rename_i n name first role
    exact ⟨n, name, first, role, rfl⟩

theorem request_eq_error :
    l.request = .error e ↔
      (∃ n subtype, FirstWith Node.IsUnsupported found n ∧ n.role = .unsupported subtype ∧
        e = .unsupportedSubtype n.id subtype) ∨
      (∀ n ∈ found, ¬ n.IsUnsupported) ∧
        FlowRefusal found l.target (Flow.of l.ancestors) e := by
  rw [← unsupported?_eq_some hl, ← unsupported?_eq_none hl, request]
  cases l.unsupported? with
  | some cause => simp [eq_comm]
  | none =>
    have called := flow_calledBy hl
    simp only [reduceCtorEq, true_and, false_or]
    cases hf : Flow.of l.ancestors <;> rw [hf] at called
    · cases called with
      | tool called => exact tool_refusal hl called
    · cases called with
      | kontext _ called => exact kontext_refusal hl called
    · exact imageToImage_refusal hl
    · exact textToImage_refusal hl

end

end Lineage

/-- Ancestors call for one flow. -/
theorem Flow.CalledBy.unique {f g : Flow} (hf : f.CalledBy found) (hg : g.CalledBy found) :
    f = g := by
  cases hf <;> cases hg <;> grind

section

variable {nodes : List Node} {edges : List Edge} {target : NodeId}

/-- An image is missed where no candidate has one. -/
theorem Refusal.noBaseImage {e : CompileError} (h : Refusal nodes edges target e)
    (missing : (∃ flow, e = .missingBaseImage flow) ∨ ∃ subtype, e = .missingImages subtype) :
    NoBaseImage (ancestors nodes edges target) target := by
  cases h with
  | unknownNode => simp at missing
  | unsupported => simp at missing
  | flow _ _ _ refused =>
    cases refused with
    | toolWithoutImage _ _ none => exact none
    | kontextWithoutImage _ _ _ none => exact none
    | remixWithoutImage _ _ none => exact none
    | imageToImageWithoutImage none => exact none
    | _ => simp at missing

theorem compile_eq_error_iff (settings : Settings) {e : CompileError} :
    compile settings nodes edges target = .error e ↔ Refusal nodes edges target e := by
  have hl : (lineageOf settings nodes edges target).ancestors =
      (ancestors nodes edges target).map Node.classify := rfl
  by_cases named : Named nodes target
  · rw [compile_named settings named, Lineage.request_eq_error hl]
    constructor
    · rintro (⟨n, subtype, first, role, rfl⟩ | ⟨supported, refused⟩)
      · exact .unsupported first role
      · exact .flow named supported (Lineage.flow_calledBy hl) refused
    · intro h
      cases h with
      | unknownNode unknown =>
        obtain ⟨n, hn, same⟩ := named
        exact absurd same (unknown n hn)
      | unsupported first role => exact .inl ⟨_, _, first, role, rfl⟩
      | flow _ supported called refused =>
        rw [called.unique (Lineage.flow_calledBy hl)] at refused
        exact .inr ⟨supported, refused⟩
  · have none : ancestors nodes edges target = [] := ancestors_eq_nil_iff.2 named
    rw [compile_unnamed settings named, Except.error.injEq]
    constructor
    · rintro rfl
      exact .unknownNode fun n hn same => named ⟨n, hn, same⟩
    · intro h
      cases h with
      | unknownNode => rfl
      | unsupported first =>
        rw [none] at first
        cases first
      | flow known => exact absurd known named

/-- Whether a graph yields a request, and if not, what it is refused for: an unknown target, else
the first unsupported ancestor, else what the flow misses that the ancestors call for. -/
theorem compile_outcome (settings : Settings) (nodes : List Node) (edges : List Edge)
    (target : NodeId) :
    (∀ e, compile settings nodes edges target = .error e ↔ Refusal nodes edges target e) ∧
    ∀ r, compile settings nodes edges target = .ok r →
      r.flow.CalledBy (ancestors nodes edges target) := by
  refine ⟨fun e => compile_eq_error_iff settings, fun r h => ?_⟩
  rw [Lineage.request_flow (compile_eq_ok.1 h).2]
  exact Lineage.flow_calledBy rfl

end

end ImageGraph
