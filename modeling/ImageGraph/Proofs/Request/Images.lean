import ImageGraph.Proofs.Request.Gathering
import ImageGraph.Proofs.Request.Signature
import ImageGraph.Upload

/-! Where the images of a request come from. A candidate is an ancestor of the target, not the
target itself, whose image is an image and no condition; which of the candidates supply one, and at
which place of the main call it stands, goes by the purpose of the request. -/

namespace ImageGraph

open Json

/-- The text that a node refers to an image by: a URL, unless it is local data, and an identifier
only where there is no such URL. -/
structure Node.Refers (n : Node) (slot : ImageSlot) (s : String) : Prop where
  filled : Text.allBlank s = false
  source : n.attribute? slot.urlKey = some (.str s) ∧ (∀ data, s ≠ "data:" ++ data) ∨
    (∀ url, n.attribute? slot.urlKey = some (.str url) →
      Text.allBlank url = true ∨ ∃ data, url = "data:" ++ data) ∧
    n.attribute? slot.idKey = some (.str s)

/-- A candidate with a property, and what it refers to its image by. -/
structure Offers (found : List Node) (target : NodeId) (P : Node → Prop) (slot : ImageSlot)
    (n : Node) (s : String) : Prop where
  candidate : Candidate found target n
  property : P n
  refers : n.Refers slot s

/-- The first candidate with a property that refers to an image, and what it refers to it by. -/
structure Supplies (found : List Node) (target : NodeId) (P : Node → Prop) (slot : ImageSlot)
    (n : Node) (s : String) : Prop where
  first : FirstWith (fun m => ∃ t, Offers found target P slot m t) found n
  refers : n.Refers slot s

/-- The mask of the first tool, or else that of the first candidate with one. -/
inductive SuppliesMask (found : List Node) (target : NodeId) (s : String) : Prop where
  | own {tool : Node} : FirstWith Node.IsTool found tool → tool.Refers .mask s →
      SuppliesMask found target s
  | lent {tool n : Node} : FirstWith Node.IsTool found tool → (∀ t, ¬ tool.Refers .mask t) →
      Supplies found target (fun _ => True) .mask n s → SuppliesMask found target s

/-- What a candidate gives to a blend: its image, with the weight it asks for or else the
default. -/
def Blends (settings : Settings) (found : List Node) (target : NodeId) (n : Node)
    (item : Json) : Prop :=
  ∃ s, Offers found target (fun _ => True) .image n s ∧
    item = .obj [("image", .str s),
      ("weight", ofFloat ((n.number? "weight").getD settings.defaultRemixWeight))]

/-- The call works on one image. -/
def Purpose.takesImage : Purpose → Bool
  | .tool _ | .kontext .reference | .kontext .reangle | .imageToImage => true
  | _ => false

/-- The texts that stand at the places of images, masks apart. -/
inductive Json.Object.Shows (params : Object) (s : String) : Prop where
  | whole {key : String} : key ∈ ["image", "sceneImage", "objectImage"] →
      params.get? key = some (.str s) → Shows params s
  | part {items : List Json} {item : Json} : params.get? "ipAdapters" = some (.arr items) →
      item ∈ items → item.field? "image" = some (.str s) → Shows params s

/-- A node that may lend an image: it is not the target, and its image means nothing else. -/
structure Node.Lends (target : NodeId) (n : Node) : Prop where
  other : n.id ≠ target
  engine : n.role ≠ .engine
  lora : n.role ≠ .lora
  prompt : ∀ p, n.role ≠ .prompt p
  control : ∀ c, n.role ≠ .controlNet c

/-- On a condition a text as described stands under the key, and otherwise nothing. -/
def Json.Object.TextWhen (params : Object) (key : String) (c : Prop) [Decidable c]
    (Q : String → Prop) : Prop :=
  if c then ∃ s, params.get? key = some (.str s) ∧ Q s else params.get? key = none

/-- The images in the parameters of a call, place by place, and where each of them is from. -/
structure Provenance (settings : Settings) (found : List Node) (target : NodeId) (p : Purpose)
    (params : Object) : Prop where
  image : params.TextWhen "image" p.takesImage fun s =>
    ∃ n, Supplies found target (fun _ => True) .image n s
  mask : params.TextWhen "mask" (p = .tool .inpaint) fun s => SuppliesMask found target s
  scene : params.TextWhen "sceneImage" (p = .kontext .rescene) fun s =>
    ∃ n, Supplies found target (Node.HasTag "SCENE") .image n s
  object : params.TextWhen "objectImage" (p = .kontext .rescene) fun s =>
    ∃ n, Supplies found target (Node.HasTag "OBJECT") .image n s
  adapters : if p = .kontext .remix then
      ∃ items, params.get? "ipAdapters" = some (.arr items) ∧ items ≠ [] ∧
        Gathers (Blends settings found target) found items
    else params.get? "ipAdapters" = none
  apart : ∀ m n s t, Supplies found target (Node.HasTag "SCENE") .image m s →
    Supplies found target (Node.HasTag "OBJECT") .image n t → m.id ≠ n.id
  origin : ∀ s, params.Shows s → ∃ n ∈ found, n.Lends target ∧ n.Refers .image s
  maskOrigin : ∀ s, params.get? "mask" = some (.str s) →
    ∃ n ∈ found, (n.Lends target ∨ FirstWith Node.IsTool found n) ∧ n.Refers .mask s

variable {found : List Node} {target : NodeId} {P : Node → Prop} {slot : ImageSlot} {n : Node}
  {s : String}

/-! ### References -/

/-- A reference is what a request reads for an image. -/
theorem Node.refers_iff : n.Refers slot s ↔ n.remote? slot.urlKey slot.idKey = some s := by
  -- No URL counts just if each there is is blank or local data.
  have unread : (n.text? slot.urlKey).filter (fun url => !Text.startsWith "data:" url) = none ↔
      ∀ url, n.attribute? slot.urlKey = some (.str url) →
        Text.allBlank url = true ∨ ∃ data, url = "data:" ++ data := by
    rw [Option.filter_eq_none_iff]
    simp only [text?_eq_some, ← Text.startsWith_iff]
    grind
  rw [remote?]
  cases read : (n.text? slot.urlKey).filter fun url => !Text.startsWith "data:" url with
  | some url =>
    obtain ⟨there, remote⟩ := Option.filter_eq_some_iff.1 read
    obtain ⟨there, filled⟩ := text?_eq_some.1 there
    have whole : ∀ data, url ≠ "data:" ++ data := by
      intro data same
      rw [Text.startsWith_iff.2 ⟨data, same⟩] at remote
      cases remote
    constructor
    · rintro ⟨-, ⟨same, -⟩ | ⟨none, -⟩⟩
      · cases there.symm.trans same
        rfl
      · rw [unread.2 none] at read
        cases read
    · intro same
      cases same
      exact ⟨filled, .inl ⟨there, whole⟩⟩
  | none =>
    have none := unread.1 read
    constructor
    · rintro ⟨filled, ⟨there, whole⟩ | ⟨-, held⟩⟩
      · obtain blank | ⟨data, same⟩ := none s there
        · rw [filled] at blank
          cases blank
        · exact absurd same (whole data)
      · exact text?_eq_some.2 ⟨held, filled⟩
    · intro held
      obtain ⟨there, filled⟩ := text?_eq_some.1 held
      exact ⟨filled, .inr ⟨none, there⟩⟩

theorem Node.image?_eq_some : n.image? = some s ↔ n.Refers .image s := by
  rw [refers_iff]
  rfl

theorem Node.mask?_eq_some : n.mask? = some s ↔ n.Refers .mask s := by
  rw [refers_iff]
  rfl

namespace Lineage

variable {l : Lineage} {β : Type}

/-- What a node gives to a reader of candidates. -/
def offer (l : Lineage) (read : Node → Option β) (n : Node) : Option β :=
  if n.id != l.target && n.role.mayHoldBase then read n else none

theorem offer_eq_some {read : Node → Option β} {b : β} (hn : n ∈ found) :
    l.offer read n = some b ↔ Candidate found l.target n ∧ read n = some b := by
  unfold offer
  split
  · rename_i lends
    simp only [Bool.and_eq_true, bne_iff_ne] at lends
    exact ⟨fun given => ⟨⟨hn, lends.1, lends.2⟩, given⟩, fun given => given.2⟩
  · rename_i other
    refine ⟨fun given => (nomatch given), fun given => absurd ?_ other⟩
    simp [given.1.other, given.1.role]

theorem filterMap_candidates (hl : l.ancestors = found.map Node.classify)
    (read : Node → Option β) :
    (l.candidates.filterMap fun a => read a.node) = found.filterMap (l.offer read) := by
  rw [candidates, hl, List.filterMap_filter, List.filterMap_map]
  refine congrArg (List.filterMap · found) (funext fun n => ?_)
  simp only [Function.comp_apply, n.classify_role, offer]
  simp only [Node.classify]
  rfl

theorem findSome?_candidates (hl : l.ancestors = found.map Node.classify)
    (read : Node → Option β) :
    (l.candidates.findSome? fun a => read a.node) = found.findSome? (l.offer read) := by
  rw [← List.head?_filterMap, filterMap_candidates hl, List.head?_filterMap]

/-- A reader of the candidates with a property finds what the first of them supplies. -/
theorem findSome?_offer {read : Node → Option String}
    (hr : ∀ m t, read m = some t ↔ P m ∧ m.Refers slot t) :
    found.findSome? (l.offer read) = some s ↔ ∃ n, Supplies found l.target P slot n s := by
  have offers {m : Node} (hm : m ∈ found) (t : String) :
      l.offer read m = some t ↔ Offers found l.target P slot m t := by
    rw [offer_eq_some hm, hr]
    exact ⟨fun ⟨candidate, property, refers⟩ => ⟨candidate, property, refers⟩,
      fun given => ⟨given.candidate, given.property, given.refers⟩⟩
  rw [FirstWith.of_findSome? (P := fun m => (l.offer read m).isSome) fun _ => Iff.rfl]
  refine exists_congr fun n => ?_
  have first : FirstWith (fun m => (l.offer read m).isSome = true) found n ↔
      FirstWith (fun m => ∃ t, Offers found l.target P slot m t) found n := by
    refine FirstWith.congr fun m hm => ?_
    rw [Option.isSome_iff_exists]
    exact exists_congr (offers hm)
  rw [first]
  constructor
  · rintro ⟨first, given⟩
    exact ⟨first, ((offers first.mem.1 s).1 given).refers⟩
  · rintro ⟨first, refers⟩
    obtain ⟨hn, t, given⟩ := first.mem
    exact ⟨first, (offers hn s).2 { given with refers }⟩

/-- The mask that the first tool works with. -/
def mask? (l : Lineage) : Option String :=
  (firstTool? l.ancestors).bind fun p => l.maskFor? p.1.node

section

variable (hl : l.ancestors = found.map Node.classify)
include hl

theorem baseImage?_eq_some :
    l.baseImage? = some s ↔ ∃ n, Supplies found l.target (fun _ => True) .image n s := by
  rw [baseImage?, findSome?_candidates hl Node.image?]
  exact findSome?_offer fun m t => by rw [true_and, Node.image?_eq_some]

theorem taggedImage_eq_some {tag : String} :
    (l.taggedImage tag).toOption = some s ↔
      ∃ n, Supplies found l.target (Node.HasTag tag) .image n s := by
  -- The image of a node with the tag; others give nothing.
  let read (n : Node) : Option String :=
    if (n.text? "tag").any fun t => Text.lower (Text.trim t) == Text.lower tag then n.image?
    else none
  have reads : (l.taggedImage tag).toOption = l.candidates.findSome? fun a => read a.node := by
    rw [taggedImage, ← List.head?_filterMap, ← List.head?_filterMap, List.filterMap_filter]
    split <;> simp_all [read, Except.toOption]
  rw [reads, findSome?_candidates hl read]
  refine findSome?_offer fun m t => ?_
  simp only [read, Option.ite_none_right_eq_some, Node.any_tag, Node.image?_eq_some]

theorem mask?_eq_some : l.mask? = some s ↔ SuppliesMask found l.target s := by
  have lent (tool : Node) (none : tool.mask? = none) : l.maskFor? tool = some s ↔
      ∃ n, Supplies found l.target (fun _ => True) .mask n s := by
    have others : l.maskFor? tool = l.candidates.findSome? fun a => a.node.mask? := by
      simp [maskFor?, none]
    rw [others, findSome?_candidates hl Node.mask?]
    exact findSome?_offer fun m t => by rw [true_and, Node.mask?_eq_some]
  rw [mask?, Option.bind_eq_some_iff]
  constructor
  · rintro ⟨⟨a, t⟩, called, held⟩
    obtain ⟨tool, first, -, rfl⟩ := (firstTool?_eq_some hl).1 called
    cases own : tool.mask? with
    | some mask =>
      have same : l.maskFor? tool = some mask := by simp [maskFor?, own]
      cases same.symm.trans held
      exact .own first (Node.mask?_eq_some.1 own)
    | none =>
      obtain ⟨n, given⟩ := (lent tool own).1 held
      refine .lent first (fun t refers => ?_) given
      rw [Node.mask?_eq_some.2 refers] at own
      cases own
  · intro supplied
    have called {tool : Node} (first : FirstWith Node.IsTool found tool)
        (held : l.maskFor? tool = some s) :
        ∃ p, firstTool? l.ancestors = some p ∧ l.maskFor? p.1.node = some s := by
      obtain ⟨t, role⟩ := first.mem.2
      exact ⟨(tool.classify, t), (firstTool?_eq_some hl).2 ⟨tool, first, role, rfl⟩, held⟩
    cases supplied with
    | own first refers =>
      exact called first (by simp [maskFor?, Node.mask?_eq_some.2 refers])
    | lent first unmasked given =>
      refine called first ((lent _ ?_).2 ⟨_, given⟩)
      exact Option.eq_none_iff_forall_ne_some.2 fun t own => unmasked t (Node.mask?_eq_some.1 own)

theorem gathers_adapters {items : List Json} :
    Gathers (Blends l.settings found l.target) found items ↔ items = l.adapters := by
  let read (n : Node) : Option Json := n.image?.map fun image =>
    .obj [("image", .str image),
      ("weight", ofFloat ((n.number? "weight").getD l.settings.defaultRemixWeight))]
  have all : l.adapters = found.filterMap (l.offer read) := filterMap_candidates hl read
  rw [all]
  refine gathers_iff fun n hn item => ?_
  simp only [offer_eq_some hn, read, Option.map_eq_some_iff, Node.image?_eq_some]
  constructor
  · rintro ⟨s, given, rfl⟩
    exact ⟨given.candidate, s, given.refers, rfl⟩
  · rintro ⟨candidate, s, refers, rfl⟩
    exact ⟨s, ⟨candidate, trivial, refers⟩, rfl⟩

end

/-- What stands at the places of images, by what the lineage has to give. -/
structure Places (l : Lineage) (p : Purpose) (params : Object) : Prop where
  image : params.TextWhen "image" p.takesImage fun s => l.baseImage? = some s
  mask : params.TextWhen "mask" (p = .tool .inpaint) fun s => l.mask? = some s
  scene : params.TextWhen "sceneImage" (p = .kontext .rescene) fun s =>
    (l.taggedImage "SCENE").toOption = some s
  object : params.TextWhen "objectImage" (p = .kontext .rescene) fun s =>
    (l.taggedImage "OBJECT").toOption = some s
  adapters : params.get? "ipAdapters" =
    if p = .kontext .remix then some (.arr l.adapters) else none
  blended : p = .kontext .remix → l.adapters ≠ []

theorem toolStep_places {a : Classified} {t : Tool} {image : String} {main : MainStep}
    (called : firstTool? l.ancestors = some (a, t)) (base : l.baseImage? = some image)
    (ok : l.toolStep a.node (Object.empty.insert "image" (.str image)) t = .ok main) :
    l.Places (.tool t) main.params := by
  cases t with
  | upscale =>
    cases ok
    constructor <;> simp [Object.TextWhen, base, Purpose.takesImage]
  | removeBackground =>
    cases ok
    constructor <;> simp [Object.TextWhen, base, Purpose.takesImage]
  | inpaint =>
    simp only [toolStep] at ok
    split at ok <;> cases ok
    rename_i mask held
    constructor <;>
      simp [Object.TextWhen, withToolPrompt, base, mask?, called, held, Purpose.takesImage]
  | outpaint =>
    cases ok
    constructor <;> simp [Object.TextWhen, withToolPrompt, withMargin, base, Purpose.takesImage]

theorem kontextStep_places {k : Kontext} {main : MainStep} (ok : l.kontextStep n k = .ok main) :
    l.Places (.kontext k) main.params := by
  cases k with
  | reference =>
    obtain ⟨image, base, ok⟩ := bind_eq_ok.1 ok
    rw [requireBase_eq_ok] at base
    cases ok
    constructor <;> simp [Object.TextWhen, base, Purpose.takesImage]
  | rescene =>
    obtain ⟨scene, hs, ok⟩ := bind_eq_ok.1 ok
    obtain ⟨object, ho, ok⟩ := bind_eq_ok.1 ok
    cases ok
    constructor <;> simp [Object.TextWhen, hs, ho, Except.toOption, Purpose.takesImage]
  | reangle =>
    obtain ⟨image, base, ok⟩ := bind_eq_ok.1 ok
    rw [requireBase_eq_ok] at base
    cases ok
    constructor <;> simp [Object.TextWhen, base, Purpose.takesImage]
  | remix =>
    simp only [kontextStep] at ok
    split at ok <;> cases ok
    rename_i adapters given
    obtain ⟨first, rest, some, rfl⟩ := nonempty?_eq_some.1 given
    constructor <;> simp [Object.TextWhen, some, Purpose.takesImage]

theorem imageToImage_places {image : String} (base : l.baseImage? = some image) (strength : Float) :
    l.Places .imageToImage (withImage l.generativeParams image strength) := by
  constructor <;> simp [Object.TextWhen, generativeParams, withImage, base, Purpose.takesImage]

/-- A request other than text-to-image has its images at the places of its purpose. -/
theorem request_places {r : Request} (ok : l.request = .ok r) (flow : r.flow ≠ .textToImage) :
    l.Places (.of l.ancestors) r.main.params := by
  cases request_makes ok with
  | tool _ first base step =>
    rw [Purpose.of_tool first]
    exact toolStep_places first base step
  | kontext called first step =>
    rw [Purpose.of_kontext called first]
    exact kontextStep_places step
  | imageToImage called base =>
    rw [Purpose.of_imageToImage called]
    exact imageToImage_places base _
  | textToImage => exact absurd rfl flow

end Lineage

/-! ### Where images are from -/

theorem Candidate.lends (h : Candidate found target n) : n.Lends target := by
  have apart {r : Role} (other : r.mayHoldBase = false) : n.role ≠ r := by
    rintro rfl
    rw [h.role] at other
    cases other
  exact ⟨h.other, apart rfl, apart rfl, fun _ => apart rfl, fun _ => apart rfl⟩

theorem Supplies.candidate (h : Supplies found target P slot n s) :
    Candidate found target n ∧ P n := by
  obtain ⟨-, t, given⟩ := h.first.mem
  exact ⟨given.candidate, given.property⟩

/-- A node has one tag at most. -/
theorem Node.HasTag.unique {tag tag' : String} (h : n.HasTag tag) (h' : n.HasTag tag') :
    Text.lower tag = Text.lower tag' := by
  obtain ⟨t, there, same⟩ := h
  obtain ⟨t', there', same'⟩ := h'
  cases there.symm.trans there'
  exact same.symm.trans same'

theorem apart_of_supplies (ids : (found.map Node.id).Nodup) {m : Node} {t : String}
    (scene : Supplies found target (Node.HasTag "SCENE") .image m s)
    (object : Supplies found target (Node.HasTag "OBJECT") .image n t) : m.id ≠ n.id := by
  intro same
  obtain ⟨own, tag⟩ := scene.candidate
  obtain ⟨other, tag'⟩ := object.candidate
  obtain rfl := eq_of_id_eq ids own.mem other.mem same
  have one := tag.unique tag'
  revert one
  decide

theorem Supplies.source (h : Supplies found target P slot n s) :
    ∃ n ∈ found, n.Lends target ∧ n.Refers slot s :=
  ⟨n, h.candidate.1.mem, h.candidate.1.lends, h.refers⟩

theorem SuppliesMask.source (h : SuppliesMask found target s) :
    ∃ n ∈ found, (n.Lends target ∨ FirstWith Node.IsTool found n) ∧ n.Refers .mask s := by
  cases h with
  | own first refers => exact ⟨_, first.mem.1, .inr first, refers⟩
  | lent _ _ given =>
    obtain ⟨n, hn, lends, refers⟩ := given.source
    exact ⟨n, hn, .inl lends, refers⟩

theorem Blends.source {settings : Settings} {item : Json} (h : Blends settings found target n item)
    (shown : item.field? "image" = some (.str s)) : n.Lends target ∧ n.Refers .image s := by
  obtain ⟨t, given, rfl⟩ := h
  cases shown
  exact ⟨given.candidate.lends, given.refers⟩

theorem Json.Object.TextWhen.imp {params : Object} {key : String} {c : Prop} [Decidable c]
    {Q R : String → Prop} (h : params.TextWhen key c Q) (hQ : ∀ s, Q s → R s) :
    params.TextWhen key c R := by
  unfold TextWhen at h ⊢
  split
  · rename_i given
    rw [if_pos given] at h
    obtain ⟨s, there, hs⟩ := h
    exact ⟨s, there, hQ s hs⟩
  · rename_i other
    rwa [if_neg other] at h

theorem Json.Object.TextWhen.elim {params : Object} {key : String} {c : Prop} [Decidable c]
    {Q : String → Prop} (h : params.TextWhen key c Q) (there : params.get? key = some (.str s)) :
    Q s := by
  unfold TextWhen at h
  split at h
  · obtain ⟨t, there', ht⟩ := h
    cases there.symm.trans there'
    exact ht
  · rw [h] at there
    cases there

theorem Lineage.Places.provenance {l : Lineage} {p : Purpose} {params : Object}
    (h : l.Places p params) (hl : l.ancestors = found.map Node.classify)
    (ids : (found.map Node.id).Nodup) : Provenance l.settings found l.target p params := by
  have image := h.image.imp fun _ => (baseImage?_eq_some hl).1
  have mask := h.mask.imp fun _ => (mask?_eq_some hl).1
  have scene := h.scene.imp fun _ => (taggedImage_eq_some hl).1
  have object := h.object.imp fun _ => (taggedImage_eq_some hl).1
  have blends := (gathers_adapters hl).2 rfl
  have adapters : if p = .kontext .remix then
        ∃ items, params.get? "ipAdapters" = some (.arr items) ∧ items ≠ [] ∧
          Gathers (Blends l.settings found l.target) found items
      else params.get? "ipAdapters" = none := by
    rw [h.adapters]
    split
    · rename_i remix
      exact ⟨_, rfl, h.blended remix, blends⟩
    · rfl
  have origin (s : String) (shown : params.Shows s) :
      ∃ n ∈ found, n.Lends l.target ∧ n.Refers .image s := by
    cases shown with
    | whole hk there =>
      simp only [List.mem_cons, List.not_mem_nil, or_false] at hk
      obtain rfl | rfl | rfl := hk
      · obtain ⟨n, given⟩ := image.elim there
        exact given.source
      · obtain ⟨n, given⟩ := scene.elim there
        exact given.source
      · obtain ⟨n, given⟩ := object.elim there
        exact given.source
    | part there hi shown =>
      rw [h.adapters] at there
      split at there <;> cases there
      obtain ⟨n, hn, own⟩ := blends.exists_of_mem hi
      exact ⟨n, hn, own.source shown⟩
  exact {
    image, mask, scene, object, adapters, origin
    apart := fun _ _ _ _ => apart_of_supplies ids
    maskOrigin := fun _ there => (mask.elim there).source }

section

variable {settings : Settings} {nodes : List Node} {edges : List Edge}

/-- The images of a tool, a transform or an image-to-image call are those of its candidates. Each
place has the first that will do, and a blend has all of them. -/
theorem compile_images {r : Request} (ok : compile settings nodes edges target = .ok r)
    (flow : r.flow ≠ .textToImage) :
    Provenance settings (ancestors nodes edges target) target
      (.of ((ancestors nodes edges target).map Node.classify)) r.main.params :=
  (Lineage.request_places (compile_eq_ok.1 ok).2 flow).provenance rfl
    (nodup_search nodes edges [] [target])

/-- An inpainting tool behind the target. The target has an image of its own, the first source has
local data only, and the tool has no mask. -/
theorem compile_images_inpaint :
    let nodes : List Node := [
      ⟨"out", "output", .obj [("imageId", .str "0"), ("maskId", .str "0")]⟩,
      ⟨"fix", "tool-inpaint", .null⟩,
      ⟨"pose", "control-net-pose", .obj [("imageId", .str "1")]⟩,
      ⟨"a", "image-source", .obj [("imageUrl", .str "data:image/png;base64,AA==")]⟩,
      ⟨"b", "image-source", .obj [("imageUrl", .str " "), ("imageId", .str "2")]⟩,
      ⟨"c", "image-source", .obj [("imageUrl", .str "https://c/3"), ("maskId", .str "m")]⟩]
    let edges : List Edge := [⟨"1", "fix", "out"⟩, ⟨"2", "pose", "fix"⟩, ⟨"3", "a", "fix"⟩,
      ⟨"4", "b", "fix"⟩, ⟨"5", "c", "fix"⟩]
    ∃ r, compile {} nodes edges "out" = .ok r ∧ r.flow ≠ .textToImage ∧
      Provenance {} (ancestors nodes edges "out") "out" (.tool .inpaint) r.main.params ∧
      r.main.params.get? "image" = some (.str "2") ∧
      r.main.params.get? "mask" = some (.str "m") := by
  intro nodes edges
  have called : .of ((ancestors nodes edges "out").map Node.classify) = Purpose.tool .inpaint := by
    decide +kernel
  have shape : (compile {} nodes edges "out").toOption.map (fun r =>
      (r.flow, (r.main.params.get? "image").bind string?,
        (r.main.params.get? "mask").bind string?)) = some (.tool, some "2", some "m") := by
    decide +kernel
  obtain ⟨r, ok, read⟩ := exists_ok_of_map shape
  simp only [Prod.mk.injEq] at read
  obtain ⟨flow, image, mask⟩ := read
  have other : r.flow ≠ .textToImage := by rw [flow]; decide
  have provenance := compile_images ok other
  rw [called] at provenance
  exact ⟨r, ok, other, provenance, bind_string?_eq_some.1 image, bind_string?_eq_some.1 mask⟩

end

end ImageGraph
