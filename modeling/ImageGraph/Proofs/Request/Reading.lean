import ImageGraph.Proofs.Graph.Attribute
import ImageGraph.Proofs.Graph.Related
import ImageGraph.Request.Compile

/-! What a request takes from its nodes. Nodes that agree in the attributes that a part of the
request reads can take each other's place without a change to that part. -/

namespace ImageGraph

/-- Nodes with one id and one type that agree in the attributes under the given keys. -/
structure Node.AgreeOn (keys : List String) (n m : Node) : Prop where
  id : n.id = m.id
  kind : n.kind = m.kind
  attribute? : ∀ key ∈ keys, n.attribute? key = m.attribute? key

/-- What a text-to-image request reads, guides apart. -/
def promptKeys : List String :=
  ["role", "subtype", "polarity", "text", "model", "loras", "lora", "weight", "strength",
    "imageUrl", "imageId"]

namespace Node.AgreeOn

variable {n m : Node} {keys : List String} {key : String}

theorem refl (n : Node) : n.AgreeOn keys n :=
  ⟨rfl, rfl, fun _ _ => rfl⟩

theorem mono {part : List String} (h : n.AgreeOn keys m) (within : part ⊆ keys) :
    n.AgreeOn part m :=
  ⟨h.id, h.kind, fun key hk => h.attribute? key (within hk)⟩

theorem text? (h : n.AgreeOn keys m) (hk : key ∈ keys) : n.text? key = m.text? key := by
  rw [Node.text?, Node.text?, h.attribute? key hk]

theorem number? (h : n.AgreeOn keys m) (hk : key ∈ keys) : n.number? key = m.number? key := by
  rw [Node.number?, Node.number?, h.attribute? key hk]

theorem flag? (h : n.AgreeOn keys m) (hk : key ∈ keys) : n.flag? key = m.flag? key := by
  rw [Node.flag?, Node.flag?, h.attribute? key hk]

theorem remote? {urlKey idKey : String} (h : n.AgreeOn keys m) (hu : urlKey ∈ keys)
    (hi : idKey ∈ keys) : n.remote? urlKey idKey = m.remote? urlKey idKey := by
  rw [Node.remote?, Node.remote?, h.text? hu, h.text? hi]

theorem image? (h : n.AgreeOn keys m) (hu : "imageUrl" ∈ keys) (hi : "imageId" ∈ keys) :
    n.image? = m.image? :=
  h.remote? hu hi

theorem typeString (h : n.AgreeOn keys m) (hr : "role" ∈ keys) (hs : "subtype" ∈ keys) :
    n.typeString = m.typeString := by
  simp only [Node.typeString, h.text? hr, h.text? hs, h.kind]

theorem role (h : n.AgreeOn keys m) (hr : "role" ∈ keys) (hs : "subtype" ∈ keys)
    (hp : "polarity" ∈ keys) : n.role = m.role := by
  unfold Node.role
  rw [h.typeString hr hs, h.text? hp]

end Node.AgreeOn

theorem Node.classify_role (n : Node) : n.classify.role = n.role := by
  rw [Node.classify]

/-! ### Lineages that are read alike -/

/-- Ancestors in one role whose nodes agree in what is read of them. -/
structure Classified.AgreeOn (keys : List String) (a b : Classified) : Prop where
  role : a.role = b.role
  node : a.node.AgreeOn keys b.node

/-- Ancestors that a request for `target` reads alike. Of a target that is an output only the role
is read. -/
structure Classified.Alike (keys : List String) (target : NodeId) (a b : Classified) : Prop where
  id : a.node.id = b.node.id
  role : a.role = b.role
  agree : ¬ (a.node.id = target ∧ a.role = .output) → a.node.AgreeOn keys b.node

/-- A classified node with another node in its place. -/
def Classified.mapNode (g : Node → Node) (a : Classified) : Classified :=
  { a with node := g a.node }

namespace Lineage

/-- Lineages whose ancestors are read alike, each in its place. -/
structure Alike (keys : List String) (l m : Lineage) : Prop where
  target : l.target = m.target
  settings : l.settings = m.settings
  ancestors : List.Forall₂ (Classified.Alike keys l.target) l.ancestors m.ancestors

/-- The lineage with other nodes in the same roles. -/
def mapNodes (g : Node → Node) (l : Lineage) : Lineage :=
  { l with ancestors := l.ancestors.map (Classified.mapNode g) }

theorem alike_mapNodes {keys : List String} {g : Node → Node} (hg : ∀ n, (g n).AgreeOn keys n)
    (l : Lineage) : (l.mapNodes g).Alike keys l where
  target := rfl
  settings := rfl
  ancestors := by
    rw [mapNodes, List.forall₂_map_left_iff, List.forall₂_same]
    exact fun a _ => ⟨(hg a.node).id, rfl, fun _ => hg a.node⟩

theorem controls_mapNodes (g : Node → Node) (l : Lineage) :
    (l.mapNodes g).controls = l.controls.map fun p => (g p.1, p.2) := by
  rw [controls, controls, mapNodes, List.filterMap_map, List.map_filterMap]
  congr 1
  funext ⟨n, role⟩
  simp only [Function.comp_apply, Classified.mapNode]
  split <;> rfl

namespace Alike

variable {l m : Lineage} {keys : List String}

theorem mono {part : List String} (h : l.Alike keys m) (within : part ⊆ keys) : l.Alike part m :=
  ⟨h.target, h.settings, h.ancestors.imp fun _ _ alike =>
    ⟨alike.id, alike.role, fun read => (alike.agree read).mono within⟩⟩

section

variable (h : l.Alike keys m)
include h

/-- Ancestors that are picked for their id and role agree, unless a target that is an output is
among them. -/
theorem filter {p q : Classified → Bool} (same : ∀ a b, a.Alike keys l.target b → p a = q b)
    (read : ∀ a, p a = true → ¬ (a.node.id = l.target ∧ a.role = .output)) :
    List.Forall₂ (Classified.AgreeOn keys) (l.ancestors.filter p) (m.ancestors.filter q) :=
  filter_related h.ancestors same fun a _ alike picked =>
    ⟨alike.role, alike.agree (read a picked)⟩

theorem withRole {r : Role} (hr : r ≠ .output) :
    List.Forall₂ (Classified.AgreeOn keys) (l.withRole r) (m.withRole r) := by
  refine h.filter (fun a b alike => by rw [alike.role]) fun a picked output => hr ?_
  rw [← eq_of_beq picked, output.2]

theorem candidates : List.Forall₂ (Classified.AgreeOn keys) l.candidates m.candidates := by
  refine h.filter (fun a b alike => by rw [alike.id, alike.role, h.target])
    fun a picked output => ?_
  simp [output.1] at picked

theorem controls :
    List.Forall₂ (fun p q => p.1.AgreeOn keys q.1 ∧ p.2 = q.2) l.controls m.controls := by
  refine List.rel_filterMap (fun {a b} alike => ?_) h.ancestors
  rw [alike.role]
  split
  · exact .none
  · rename_i control role
    have read : ¬ (a.node.id = l.target ∧ a.role = .output) := by simp [alike.role, role]
    exact .some ⟨alike.agree read, rfl⟩
  · exact .none

/-! What is supported and which flow is called for goes by roles alone. -/

theorem unsupported? : l.unsupported? = m.unsupported? :=
  findSome?_related h.ancestors fun a b alike => by rw [alike.id, alike.role]

theorem firstTool? :
    Option.Rel (fun p q => p.1.AgreeOn keys q.1 ∧ p.2 = q.2) (firstTool? l.ancestors)
      (firstTool? m.ancestors) := by
  refine findSome?_rel h.ancestors fun a b alike => ?_
  rw [alike.role]
  split
  · rename_i role
    exact .some ⟨⟨alike.role, alike.agree (by simp [alike.role, role])⟩, rfl⟩
  · exact .none

theorem firstKontext? :
    Option.Rel (fun p q => p.1.AgreeOn keys q.1 ∧ p.2 = q.2) (firstKontext? l.ancestors)
      (firstKontext? m.ancestors) := by
  refine findSome?_rel h.ancestors fun a b alike => ?_
  rw [alike.role]
  split
  · rename_i role
    exact .some ⟨⟨alike.role, alike.agree (by simp [alike.role, role])⟩, rfl⟩
  · exact .none

theorem flow : Flow.of l.ancestors = Flow.of m.ancestors := by
  have roles : l.ancestors.map Classified.role = m.ancestors.map Classified.role :=
    map_related h.ancestors fun _ _ alike => alike.role
  have plain : (l.ancestors.any fun a => a.role == .imageToImage) =
      m.ancestors.any fun a => a.role == .imageToImage := by
    have same := congrArg (List.any · (· == .imageToImage)) roles
    rwa [List.any_map, List.any_map] at same
  rw [Flow.of, Flow.of, isSome_of_rel h.firstTool?, isSome_of_rel h.firstKontext?, plain]

end

/-! ### Prompts, models and adapters -/

section

variable (h : l.Alike promptKeys m)
include h

theorem prompt? (p : Polarity) : l.prompt? p = m.prompt? p := by
  have texts := filterMap_related (h.withRole (r := .prompt p) (by simp)) fun a b agree =>
    show a.node.text? "text" = b.node.text? "text" from agree.node.text? (by simp [promptKeys])
  rw [Lineage.prompt?, Lineage.prompt?, texts]

theorem negativePrompt? : l.negativePrompt? = m.negativePrompt? := by
  rw [Lineage.negativePrompt?, Lineage.negativePrompt?, h.prompt?, h.settings]

theorem model : l.model = m.model := by
  have models := map_related (h.withRole (r := .engine) (by simp)) fun a b agree =>
    show a.node.text? "model" = b.node.text? "model" from agree.node.text? (by simp [promptKeys])
  have first := congrArg (fun names => names.head?.bind id) models
  simp only [List.head?_map, Option.bind_map] at first
  rw [Lineage.model, Lineage.model, h.settings]
  exact congrArg (Option.getD · _) first

theorem loras : l.loras = m.loras := by
  have entry : l.loraOf? = m.loraOf? := by
    funext j
    cases j <;> simp only [loraOf?, h.settings]
  have attached := map_related (h.withRole (r := .engine) (by simp)) fun a b agree =>
    show (((a.node.attribute? "loras").bind Json.array?).getD []).filterMap l.loraOf? =
      (((b.node.attribute? "loras").bind Json.array?).getD []).filterMap m.loraOf? by
    rw [agree.node.attribute? "loras" (by simp [promptKeys]), entry]
  -- What a node of its own gives, with the id that it is sorted by.
  have standalone := map_related (h.withRole (r := .lora) (by simp)) fun a b agree =>
    show (a.node.id, l.loraNode? a.node) = (b.node.id, m.loraNode? b.node) by
    have text {key : String} : key ∈ promptKeys → a.node.text? key = b.node.text? key :=
      agree.node.text?
    have number {key : String} : key ∈ promptKeys → a.node.number? key = b.node.number? key :=
      agree.node.number?
    rw [loraNode?, loraNode?, text (by simp [promptKeys]), text (by simp [promptKeys]),
      number (by simp [promptKeys]), number (by simp [promptKeys]), agree.node.id, h.settings]
  have sorted (l : Lineage) (nodes : List Classified) :
      (nodes.mergeSort fun a b => a.node.id ≤ b.node.id).filterMap (fun a => l.loraNode? a.node) =
        ((nodes.map fun a => (a.node.id, l.loraNode? a.node)).mergeSort
          fun a b => a.1 ≤ b.1).filterMap Prod.snd := by
    have order : ∀ a ∈ nodes, ∀ b ∈ nodes, decide (a.node.id ≤ b.node.id) =
        decide ((a.node.id, l.loraNode? a.node).1 ≤ (b.node.id, l.loraNode? b.node).1) :=
      fun _ _ _ _ => rfl
    rw [← List.map_mergeSort order, List.filterMap_map]
    rfl
  rw [Lineage.loras, Lineage.loras, List.flatMap_def, List.flatMap_def, attached, sorted, sorted,
    standalone]

theorem generativeParams : l.generativeParams = m.generativeParams := by
  rw [Lineage.generativeParams, Lineage.generativeParams, h.model, h.loras, h.prompt?,
    h.negativePrompt?]

theorem seedImage? : l.seedImage? = m.seedImage? := by
  refine findSome?_related (h.withRole (by simp)) fun a b agree => ?_
  have strength : a.node.number? "strength" = b.node.number? "strength" :=
    agree.node.number? (by simp [promptKeys])
  rw [agree.node.image? (by simp [promptKeys]) (by simp [promptKeys]), strength, h.settings]

end

end Alike

end Lineage

section

variable {settings : Settings} {nodes : List Node} {edges : List Edge} {target : NodeId}

/-- What a target's request is made from. -/
def lineageOf (settings : Settings) (nodes : List Node) (edges : List Edge) (target : NodeId) :
    Lineage :=
  ⟨target, (ancestors nodes edges target).map Node.classify, settings⟩

theorem compile_eq_ok {r : Request} :
    compile settings nodes edges target = .ok r ↔
      ancestors nodes edges target ≠ [] ∧
        (lineageOf settings nodes edges target).request = .ok r := by
  unfold compile lineageOf
  cases ancestors nodes edges target <;> simp

theorem compile_unnamed (settings : Settings) (h : ¬ Named nodes target) :
    compile settings nodes edges target = .error (.unknownNode target) := by
  rw [compile, ancestors_eq_nil_iff.2 h]

theorem compile_named (settings : Settings) (h : Named nodes target) :
    compile settings nodes edges target = (lineageOf settings nodes edges target).request := by
  unfold compile lineageOf
  split
  · rename_i none
    exact absurd h (ancestors_eq_nil_iff.1 none)
  · rfl

theorem ids_lineageOf_nodup (settings : Settings) (nodes : List Node) (edges : List Edge)
    (target : NodeId) :
    ((lineageOf settings nodes edges target).ancestors.map fun a => a.node.id).Nodup := by
  rw [lineageOf, List.map_map]
  exact nodup_search nodes edges [] [target]

theorem lineageOf_map {g : Node → Node} (hid : ∀ n, (g n).id = n.id)
    (hrole : ∀ n, (g n).role = n.role) :
    lineageOf settings (nodes.map g) edges target =
      (lineageOf settings nodes edges target).mapNodes g := by
  have classify : Node.classify ∘ g = Classified.mapNode g ∘ Node.classify := by
    funext n
    simp only [Function.comp_apply, Node.classify, Classified.mapNode, hrole]
  rw [lineageOf, lineageOf, Lineage.mapNodes, ancestors_map hid, List.map_map, List.map_map,
    classify]

end

end ImageGraph
