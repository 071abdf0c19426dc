import ImageGraph.Proofs.Request.Reading
import ImageGraph.Proofs.Request.Reorder

/-! What the main call of a request is made of. The purpose of a request decides on its method, on
the parameters that it has to have and on those that it may have, and on the kind of each. -/

namespace ImageGraph

open Json

/-- What a parameter holds. -/
inductive ParamKind where
  | text
  /-- A text that is not blank. -/
  | filled
  /-- A number, or null in place of one that is not finite. -/
  | number
  /-- A whole number of 32 bits. -/
  | pixels
  | flag
  /-- A list with at least one item. -/
  | list
  deriving Repr, DecidableEq

def ParamKind.Holds : ParamKind → Json → Prop
  | text, v => ∃ s, v = .str s
  | filled, v => ∃ s, v = .str s ∧ Text.allBlank s = false
  | number, v => ∃ x, v = ofFloat x
  | pixels, v => ∃ n : UInt32, v = Json.ofNat n.toNat
  | flag, v => ∃ b, v = .bool b
  | list, v => ∃ first rest, v = .arr (first :: rest)

structure Param where
  key : String
  kind : ParamKind
  required : Bool
  deriving Repr, DecidableEq

namespace Param

def needs (key : String) (kind : ParamKind) : Param := ⟨key, kind, true⟩

def may (key : String) (kind : ParamKind) : Param := ⟨key, kind, false⟩

end Param

/-- The object has every required parameter, and nothing but values of the right kind under the keys
of parameters. -/
structure Json.Object.Fits (o : Object) (params : List Param) : Prop where
  required : ∀ p ∈ params, p.required → (o.get? p.key).isSome
  known : ∀ key v, o.get? key = some v → ∃ p ∈ params, p.key = key ∧ p.kind.Holds v

/-- What a request is for. -/
inductive Purpose where
  | tool (tool : Tool)
  | kontext (kontext : Kontext)
  | imageToImage
  /-- Text-to-image, with or without a seed image. -/
  | textToImage (seeded : Bool)
  deriving Repr, DecidableEq

namespace Purpose

/-- The purpose that the ancestors of a target call for. -/
def of (found : List Classified) : Purpose :=
  match firstTool? found, firstKontext? found with
  | some (_, t), _ => .tool t
  | none, some (_, k) => .kontext k
  | none, none =>
    if found.any fun a => a.role == .imageToImage then .imageToImage
    else .textToImage
      (found.any fun a => a.role == .controlNet .lights && a.node.image?.isSome)

def flow : Purpose → Flow
  | tool _ => .tool
  | kontext _ => .kontext
  | imageToImage => .imageToImage
  | textToImage _ => .textToImage

def method : Purpose → Method
  | tool .upscale => .upscale
  | tool .removeBackground => .removeBackground
  | tool .inpaint => .inpaint
  | tool .outpaint => .outpaint
  | kontext .reference | kontext .reangle => .styleTransfer
  | kontext .rescene | kontext .remix => .recombine
  | imageToImage | textToImage true => .img2img
  | textToImage false => .txt2img

/-- The parameters of every generative call. -/
def generative : List Param :=
  [.needs "model" .text, .may "loras" .list, .may "positivePrompt" .filled,
    .may "negativePrompt" .filled]

/-- The parameters of a call that starts from an image. -/
def start : List Param :=
  [.needs "image" .filled, .needs "strength" .number]

def params : Purpose → List Param
  | tool .upscale =>
    [.needs "image" .filled, .needs "scale" .number, .needs "upscaleModel" .text,
      .needs "faceEnhance" .flag]
  | tool .removeBackground => [.needs "image" .filled]
  | tool .inpaint => [.needs "image" .filled, .needs "mask" .filled, .may "prompt" .filled]
  | tool .outpaint =>
    [.needs "image" .filled, .needs "top" .pixels, .needs "right" .pixels,
      .needs "bottom" .pixels, .needs "left" .pixels, .may "prompt" .filled]
  | kontext .reference => [.needs "image" .filled, .needs "prompt" .filled]
  | kontext .rescene =>
    [.needs "sceneImage" .filled, .needs "objectImage" .filled, .needs "prompt" .filled]
  | kontext .reangle =>
    [.needs "image" .filled, .needs "angle" .number, .needs "direction" .text,
      .needs "prompt" .filled]
  | kontext .remix => [.needs "ipAdapters" .list, .needs "prompt" .filled]
  | imageToImage => generative ++ start
  | textToImage false => generative ++ [.may "controlnet" .list]
  | textToImage true => generative ++ [.may "controlnet" .list] ++ start

end Purpose

/-- The method of the purpose with its parameters. -/
structure MainStep.Fits (m : MainStep) (p : Purpose) : Prop where
  method : m.method = p.method
  params : m.params.Fits p.params

structure Request.Fits (r : Request) (p : Purpose) : Prop where
  flow : r.flow = p.flow
  main : r.main.Fits p
  preprocess : r.flow ≠ .textToImage → r.preprocess = []

/-- The flow generates an image from prompts. -/
def Flow.Generates (f : Flow) : Prop :=
  f = .imageToImage ∨ f = .textToImage

instance (f : Flow) : Decidable f.Generates :=
  inferInstanceAs (Decidable (f = .imageToImage ∨ f = .textToImage))

/-- What belongs to some flows only is in none of the others. -/
structure Request.Confined (r : Request) : Prop where
  preprocess : r.preprocess ≠ [] → r.flow = .textToImage
  controlnet : (r.main.params.get? "controlnet").isSome → r.flow = .textToImage
  generative : ∀ key ∈ ["model", "loras", "positivePrompt", "negativePrompt"],
    (r.main.params.get? key).isSome → r.flow.Generates
  model : r.flow.Generates → (r.main.params.get? "model").isSome

/-! ### Purposes -/

namespace Purpose

variable {found : List Classified} {a : Classified}

theorem of_tool {t : Tool} (called : firstTool? found = some (a, t)) : of found = tool t := by
  rw [of, called]

theorem of_kontext (flow : Flow.of found = .kontext) {k : Kontext}
    (called : firstKontext? found = some (a, k)) : of found = kontext k := by
  cases none : firstTool? found with
  | none => rw [of, none, called]
  | some first => simp [Flow.of, none] at flow

theorem of_imageToImage (flow : Flow.of found = .imageToImage) : of found = imageToImage := by
  grind [of, Flow.of]

theorem of_textToImage (flow : Flow.of found = .textToImage) :
    of found = textToImage
      (found.any fun a => a.role == .controlNet .lights && a.node.image?.isSome) := by
  grind [of, Flow.of]

def all : List Purpose :=
  Tool.all.map tool ++ Kontext.all.map kontext ++
    [imageToImage, textToImage false, textToImage true]

theorem mem_all (p : Purpose) : p ∈ all := by
  cases p with
  | tool t => cases t <;> decide
  | kontext k => cases k <;> decide
  | imageToImage => decide
  | textToImage seeded => cases seeded <;> decide

theorem flow_of_controlnet :
    ∀ p ∈ all, "controlnet" ∈ p.params.map Param.key → p.flow = .textToImage := by
  decide

theorem generates_of_key :
    ∀ p ∈ all, ∀ key ∈ ["model", "loras", "positivePrompt", "negativePrompt"],
      key ∈ p.params.map Param.key → p.flow.Generates := by
  decide

theorem model_of_generates :
    ∀ p ∈ all, p.flow.Generates → .needs "model" .text ∈ p.params := by
  decide

end Purpose

/-! ### Parameters -/

theorem list_holds {items : List Json} {j : Json} (h : nonempty? items = some j) :
    ParamKind.list.Holds j := by
  obtain ⟨first, rest, rfl, rfl⟩ := nonempty?_eq_some.1 h
  exact ⟨first, rest, rfl⟩

namespace Json.Object.Fits

variable {o : Object} {params : List Param} {kind : ParamKind}

theorem empty : Object.empty.Fits [] where
  required := by simp
  known key v h := by cases h

private theorem add (h : o.Fits params) (p : Param) {value : Option Json}
    (given : p.required → value.isSome) (holds : ∀ v, value = some v → p.kind.Holds v) :
    (o.insertSome p.key value).Fits (params ++ [p]) where
  required q hq required := by
    rw [get?_insertSome]
    obtain hq | hq := List.mem_append.1 hq
    · have there := h.required q hq required
      split <;> simp [there]
    · obtain rfl := List.mem_singleton.1 hq
      simp [given required]
  known key v hv := by
    have old (hv : o.get? key = some v) :
        ∃ q ∈ params ++ [p], q.key = key ∧ q.kind.Holds v := by
      obtain ⟨q, hq, fits⟩ := h.known key v hv
      exact ⟨q, List.mem_append_left _ hq, fits⟩
    rw [get?_insertSome] at hv
    split at hv
    · rename_i same
      cases value with
      | none => exact old hv
      | some w =>
        cases hv
        exact ⟨p, by simp, same.symm, holds v rfl⟩
    · exact old hv

theorem insert (h : o.Fits params) (key : String) {v : Json} (holds : kind.Holds v) :
    (o.insert key v).Fits (params ++ [.needs key kind]) :=
  h.add (.needs key kind) (fun _ => rfl) fun _ hv => Option.some.inj hv ▸ holds

theorem insertSome (h : o.Fits params) (key : String) {value : Option Json}
    (holds : ∀ v, value = some v → kind.Holds v) :
    (o.insertSome key value).Fits (params ++ [.may key kind]) :=
  h.add (.may key kind) (fun required => nomatch required) holds

theorem insertText (h : o.Fits params) (key s : String) :
    (o.insert key (.str s)).Fits (params ++ [.needs key .text]) :=
  h.insert key ⟨s, rfl⟩

theorem insertFilled (h : o.Fits params) (key : String) {s : String}
    (filled : Text.allBlank s = false) :
    (o.insert key (.str s)).Fits (params ++ [.needs key .filled]) :=
  h.insert key ⟨s, rfl, filled⟩

theorem insertNumber (h : o.Fits params) (key : String) (x : Float) :
    (o.insert key (ofFloat x)).Fits (params ++ [.needs key .number]) :=
  h.insert key ⟨x, rfl⟩

theorem insertSomeFilled (h : o.Fits params) (key : String) {s : Option String}
    (filled : ∀ t, s = some t → Text.allBlank t = false) :
    (o.insertSome key (s.map .str)).Fits (params ++ [.may key .filled]) := by
  refine h.insertSome key fun v hv => ?_
  obtain ⟨t, ht, rfl⟩ := Option.map_eq_some_iff.1 hv
  exact ⟨t, rfl, filled t ht⟩

theorem insertList (h : o.Fits params) (key : String) (items : List Json) :
    (o.insertSome key (nonempty? items)).Fits (params ++ [.may key .list]) :=
  h.insertSome key fun _ => list_holds

theorem withMargins (h : o.Fits params) (n : Node) (sides : List String) :
    (sides.foldl (Lineage.withMargin n) o).Fits
      (params ++ sides.map fun side => .needs side .pixels) := by
  induction sides generalizing o params with
  | nil => simpa using h
  | cons side rest ih =>
    have first : (Lineage.withMargin n o side).Fits (params ++ [.needs side .pixels]) :=
      h.insert side ⟨Lineage.pixels ((n.number? side).getD 0.0), rfl⟩
    have all := ih first
    rwa [List.append_assoc] at all

theorem withImage (h : o.Fits params) {image : String} (filled : Text.allBlank image = false)
    (strength : Float) :
    (Lineage.withImage o image strength).Fits (params ++ Purpose.start) := by
  have start := (h.insertFilled "image" filled).insertNumber "strength" strength
  rwa [List.append_assoc] at start

theorem mem_keys (h : o.Fits params) {key : String} (given : (o.get? key).isSome) :
    key ∈ params.map Param.key := by
  obtain ⟨v, hv⟩ := Option.isSome_iff_exists.1 given
  obtain ⟨p, hp, rfl, -⟩ := h.known key v hv
  exact List.mem_map_of_mem hp

end Json.Object.Fits

/-! ### Texts that are not blank -/

theorem filled_of_remote? {n : Node} {urlKey idKey s : String}
    (h : n.remote? urlKey idKey = some s) : Text.allBlank s = false := by
  obtain h | h := either_of_orElse h
  · exact filled_of_text? (Option.filter_eq_some_iff.1 h).1
  · exact filled_of_text? h

namespace Lineage

variable {l : Lineage} {n : Node} {s : String}

theorem filled_of_baseImage? (h : l.baseImage? = some s) : Text.allBlank s = false := by
  obtain ⟨a, -, ha⟩ := List.exists_of_findSome?_eq_some h
  exact filled_of_remote? ha

theorem filled_of_requireBase {flow : String} (h : l.requireBase flow = .ok s) :
    Text.allBlank s = false :=
  filled_of_baseImage? (requireBase_eq_ok.1 h)

theorem filled_of_maskFor? (h : l.maskFor? n = some s) : Text.allBlank s = false := by
  obtain h | h := either_of_orElse h
  · exact filled_of_remote? h
  · obtain ⟨a, -, ha⟩ := List.exists_of_findSome?_eq_some h
    exact filled_of_remote? ha

theorem filled_of_taggedImage {tag : String} (h : l.taggedImage tag = .ok s) :
    Text.allBlank s = false := by
  simp only [taggedImage] at h
  split at h <;> cases h
  obtain ⟨a, -, ha⟩ := List.exists_of_findSome?_eq_some ‹_›
  exact filled_of_remote? ha

theorem filled_of_seedImage? {strength : Float} (h : l.seedImage? = some (s, strength)) :
    Text.allBlank s = false := by
  obtain ⟨a, -, ha⟩ := List.exists_of_findSome?_eq_some h
  obtain ⟨image, hi, rfl, -⟩ := Option.map_eq_some_iff.1 ha
  exact filled_of_remote? hi

theorem filled_of_prompt? {p : Polarity} (h : l.prompt? p = some s) : Text.allBlank s = false := by
  rw [prompt?_eq] at h
  split at h
  · cases h
  · rename_i some
    cases h
    have each : ∀ t ∈ ((l.texts p).map Text.trim).map String.toList,
        Text.Trimmed t ∧ t ≠ [] := by
      simp only [List.map_map, List.forall_mem_map, Function.comp_apply]
      exact fun t ht => ⟨Text.trimmed_trim t, Text.trim_ne_nil (filled_of_mem_texts ht)⟩
    obtain ⟨trimmed, long⟩ := Text.trimmed_intercalate "\n\n".toList each (by simpa using some)
    rw [← String.toList_intercalate] at trimmed long
    exact trimmed.filled long

theorem filled_of_promptFor? (h : l.promptFor? n = some s) : Text.allBlank s = false := by
  obtain h | h := either_of_orElse h
  · exact filled_of_prompt? h
  · obtain ⟨own, ho, rfl⟩ := Option.map_eq_some_iff.1 h
    exact (Text.trimmed_trim own).filled (Text.trim_ne_nil (filled_of_text? ho))

/-! ### The calls of a flow -/

theorem generativeParams_fits (l : Lineage) : l.generativeParams.Fits Purpose.generative := by
  have positive (s : String) : l.prompt? .positive = some s → Text.allBlank s = false :=
    filled_of_prompt?
  have negative (s : String) (h : l.negativePrompt? = some s) : Text.allBlank s = false :=
    filled_of_prompt? (Option.filter_eq_some_iff.1 h).1
  exact (((Object.Fits.empty.insertText "model" l.model).insertList "loras" _).insertSomeFilled
    "positivePrompt" positive).insertSomeFilled "negativePrompt" negative

theorem toolStep_fits {image : String} (filled : Text.allBlank image = false) {t : Tool}
    {main : MainStep}
    (ok : l.toolStep n (Object.empty.insert "image" (.str image)) t = .ok main) :
    main.Fits (.tool t) := by
  have start := Object.Fits.empty.insertFilled "image" filled
  have prompt (s : String) : l.promptFor? n = some s → Text.allBlank s = false :=
    filled_of_promptFor?
  cases t with
  | upscale =>
    cases ok
    exact ⟨rfl, ((start.insertNumber "scale" _).insertText "upscaleModel" _).insert "faceEnhance"
      ⟨_, rfl⟩⟩
  | removeBackground =>
    cases ok
    exact ⟨rfl, start⟩
  | inpaint =>
    simp only [toolStep] at ok
    split at ok <;> cases ok
    rename_i mask found
    exact ⟨rfl, (start.insertFilled "mask" (filled_of_maskFor? found)).insertSomeFilled "prompt"
      prompt⟩
  | outpaint =>
    cases ok
    exact ⟨rfl, (start.withMargins n ["top", "right", "bottom", "left"]).insertSomeFilled "prompt"
      prompt⟩

theorem kontextPrompt_holds (l : Lineage) (n : Node) {fallback : String}
    (filled : Text.allBlank fallback = false) :
    ParamKind.filled.Holds (l.kontextPrompt n fallback) := by
  refine ⟨_, rfl, ?_⟩
  cases h : l.promptFor? n with
  | none => exact filled
  | some s => exact filled_of_promptFor? h

theorem filled_rotation (angle : Float) (direction : String) :
    Text.allBlank (rotation angle direction) = false := by
  unfold rotation
  exact Text.filled_append (Text.filled_append (Text.filled_append
    (Text.filled_append rfl _) _) _) _

theorem kontextStep_fits {k : Kontext} {main : MainStep} (ok : l.kontextStep n k = .ok main) :
    main.Fits (.kontext k) := by
  cases k with
  | reference =>
    obtain ⟨image, hi, ok⟩ := bind_eq_ok.1 ok
    cases ok
    exact ⟨rfl, (Object.Fits.empty.insertFilled "image" (filled_of_requireBase hi)).insert
      "prompt" (l.kontextPrompt_holds n rfl)⟩
  | rescene =>
    obtain ⟨scene, hs, ok⟩ := bind_eq_ok.1 ok
    obtain ⟨subject, ho, ok⟩ := bind_eq_ok.1 ok
    cases ok
    exact ⟨rfl, ((Object.Fits.empty.insertFilled "sceneImage"
      (filled_of_taggedImage hs)).insertFilled "objectImage" (filled_of_taggedImage ho)).insert
      "prompt" (l.kontextPrompt_holds n rfl)⟩
  | reangle =>
    obtain ⟨image, hi, ok⟩ := bind_eq_ok.1 ok
    cases ok
    exact ⟨rfl, (((Object.Fits.empty.insertFilled "image" (filled_of_requireBase hi)).insertNumber
      "angle" _).insertText "direction" _).insert "prompt"
      (l.kontextPrompt_holds n (filled_rotation _ _))⟩
  | remix =>
    simp only [kontextStep] at ok
    split at ok <;> cases ok
    rename_i adapters found
    exact ⟨rfl, (Object.Fits.empty.insert "ipAdapters" (list_holds found)).insert "prompt"
      (l.kontextPrompt_holds n rfl)⟩

theorem mainWith_fits (l : Lineage) (entries : List ControlEntry) :
    (l.mainWith entries).Fits (.textToImage l.seedImage?.isSome) := by
  have params := l.generativeParams_fits.insertList "controlnet" (entries.map ControlEntry.toJson)
  unfold mainWith
  cases hs : l.seedImage? with
  | none => exact ⟨rfl, params⟩
  | some seed => exact ⟨rfl, params.withImage (filled_of_seedImage? hs) seed.2⟩

theorem isSome_seedImage? (l : Lineage) :
    l.seedImage?.isSome =
      l.ancestors.any fun a => a.role == .controlNet .lights && a.node.image?.isSome := by
  simp [seedImage?, List.isSome_findSome?, withRole, List.any_filter]

/-! ### The request -/

/-- A request fits the purpose that its ancestors call for. -/
theorem request_fits {r : Request} (ok : l.request = .ok r) : r.Fits (.of l.ancestors) := by
  cases request_makes ok with
  | tool flow first base step =>
    rw [Purpose.of_tool first]
    exact ⟨rfl, toolStep_fits (filled_of_baseImage? base) step, fun _ => rfl⟩
  | kontext flow first step =>
    rw [Purpose.of_kontext flow first]
    exact ⟨rfl, kontextStep_fits step, fun _ => rfl⟩
  | imageToImage flow base =>
    rw [Purpose.of_imageToImage flow]
    have params := l.generativeParams_fits.withImage (filled_of_baseImage? base) l.imageStrength
    exact ⟨rfl, ⟨rfl, params⟩, fun _ => rfl⟩
  | textToImage prompts =>
    rw [Purpose.of_textToImage prompts.flow, ← isSome_seedImage?]
    exact ⟨rfl, l.mainWith_fits _, fun other => absurd rfl other⟩

end Lineage

theorem Request.Fits.confined {r : Request} {p : Purpose} (h : r.Fits p) : r.Confined where
  preprocess some := by_contra fun other => some (h.preprocess other)
  controlnet given := by
    rw [h.flow]
    exact Purpose.flow_of_controlnet p p.mem_all (h.main.params.mem_keys given)
  generative key hk given := by
    rw [h.flow]
    exact Purpose.generates_of_key p p.mem_all key hk (h.main.params.mem_keys given)
  model generates := by
    rw [h.flow] at generates
    exact h.main.params.required _ (Purpose.model_of_generates p p.mem_all generates) rfl

/-- A call that generates has the model, the adapters and the prompts of its lineage, and no other
call has any. -/
theorem Lineage.request_generative {l : Lineage} {r : Request} (ok : l.request = .ok r)
    {key : String} (hk : key ∈ ["model", "loras", "positivePrompt", "negativePrompt"]) :
    r.main.params.get? key = if r.flow.Generates then l.generativeParams.get? key else none := by
  have apart : key ≠ "image" ∧ key ≠ "strength" ∧ key ≠ "controlnet" := by
    refine ⟨?_, ?_, ?_⟩ <;> rintro rfl <;> revert hk <;> decide
  have started (params : Object) (image : String) (strength : Float) :
      (withImage params image strength).get? key = params.get? key := by
    simp [withImage, apart]
  split
  · rename_i generates
    cases request_makes ok with
    | tool | kontext => cases generates <;> contradiction
    | imageToImage => exact started _ _ _
    | textToImage =>
      rw [withContributions, mainWith]
      cases l.seedImage? <;> simp [started, apart]
  · rename_i other
    exact Option.not_isSome_iff_eq_none.1 fun given =>
      other ((request_fits ok).confined.generative key hk given)

section

variable {settings : Settings} {nodes : List Node} {edges : List Edge} {target : NodeId}

/-- A request has the method and the parameters of the purpose that the ancestors of its target call
for, and nothing that belongs to other flows only. A text-to-image request starts from an image just
if there is a seed image among the ancestors. -/
theorem compile_fits {r : Request} (ok : compile settings nodes edges target = .ok r) :
    r.Fits (.of ((ancestors nodes edges target).map Node.classify)) ∧ r.Confined ∧
      (r.flow = .textToImage → (r.main.method = .img2img ↔
        ∃ n ∈ ancestors nodes edges target,
          n.role = .controlNet .lights ∧ n.image?.isSome)) := by
  have made := (compile_eq_ok.1 ok).2
  have fits := Lineage.request_fits made
  refine ⟨fits, fits.confined, fun flow => ?_⟩
  have called := Purpose.of_textToImage ((Lineage.request_flow made).symm.trans flow)
  have starts (seeded : Bool) :
      (Purpose.textToImage seeded).method = .img2img ↔ seeded = true := by
    cases seeded <;> decide
  rw [fits.main.method, called, starts]
  simp [lineageOf, Node.classify]

/-- A prompt and a seed image. -/
theorem compile_fits_seeded :
    let nodes : List Node := [⟨"out", "output", .null⟩,
      ⟨"words", "prompt", .obj [("text", .str "a cat")]⟩,
      ⟨"seed", "control-net-lights", .obj [("imageId", .str "1")]⟩]
    let edges : List Edge := [⟨"1", "words", "out"⟩, ⟨"2", "seed", "out"⟩]
    ∃ r, compile {} nodes edges "out" = .ok r ∧ r.Fits (.textToImage true) ∧ r.Confined ∧
      r.main.method = .img2img := by
  intro nodes edges
  have called : .of ((ancestors nodes edges "out").map Node.classify) =
      Purpose.textToImage true := by decide +kernel
  have compiles : (compile {} nodes edges "out").isOk := by decide +kernel
  obtain ⟨r, ok⟩ := exists_ok_of_isOk compiles
  obtain ⟨fits, confined, -⟩ := compile_fits ok
  rw [called] at fits
  exact ⟨r, ok, fits, confined, fits.main.method⟩

end

end ImageGraph
