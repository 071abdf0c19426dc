import ImageGraph.Proofs.Request.Reading
import ImageGraph.Proofs.Request.TextToImage

/-! Requests as data, as they are recorded and sent. JSON has no number for what is not finite, so a
request is carried whole just if its numbers are finite. They are where the settings and the data of
the ancestors have finite numbers, unless a text is read as one that is not. -/

namespace ImageGraph

namespace Json

mutual

/-- Every value without parts that occurs in this one has the property. -/
def leavesAll (p : Json → Bool) : Json → Bool
  | arr items => itemsAll p items
  | obj entries => entriesAll p entries
  | j => p j

def itemsAll (p : Json → Bool) : List Json → Bool
  | [] => true
  | j :: rest => leavesAll p j && itemsAll p rest

def entriesAll (p : Json → Bool) : List (String × Json) → Bool
  | [] => true
  | (_, j) :: rest => leavesAll p j && entriesAll p rest

end

/-- No null occurs at any depth. -/
def Complete (j : Json) : Prop :=
  j.leavesAll (fun v => !v.isNull)

/-- The numbers at any depth are finite. -/
def Finite (j : Json) : Prop :=
  j.leavesAll fun
    | num n => n.toFloat.isFinite
    | _ => true

instance (j : Json) : Decidable j.Complete :=
  inferInstanceAs (Decidable (_ = true))

instance (j : Json) : Decidable j.Finite :=
  inferInstanceAs (Decidable (_ = true))

end Json

/-- The keys that a compilation reads numbers under, by the role of the node. Margins are not among
them, which are kept within bounds. -/
def Role.numberKeys : Role → List String
  | .controlNet _ => ["strength"]
  | .lora => ["weight", "strength"]
  | .tool .upscale => ["weight", "scale"]
  | .kontext .reangle => ["weight", "angle"]
  | .imageToImage => ["weight", "creativity", "strength"]
  | .imageSource | .passThrough | .output | .tool _ | .kontext _ => ["weight"]
  | .engine | .prompt _ | .unsupported _ => []

/-- No text under these keys is read as a number that is not finite. -/
def Node.FiniteTexts (keys : List String) (n : Node) : Prop :=
  ∀ key ∈ keys, ((n.attribute? key).bind Json.string?).all fun s =>
    (Decimal.float? (Text.trim s).toList).all Float.isFinite

instance (keys : List String) (n : Node) : Decidable (n.FiniteTexts keys) :=
  inferInstanceAs (Decidable (∀ key ∈ keys, _))

structure Settings.Finite (s : Settings) : Prop where
  i2iStrength : s.defaultI2iStrength.isFinite
  controlnetStrength : s.defaultControlnetStrength.isFinite
  loraWeight : s.defaultLoraWeight.isFinite
  reangleAngle : s.defaultReangleAngle.isFinite
  remixWeight : s.defaultRemixWeight.isFinite
  upscaleFactor : s.defaultUpscaleFactor.isFinite

namespace Json

variable {p : Json → Bool} {j : Json} {o : Object}

theorem leavesAll_arr {items : List Json} :
    (arr items).leavesAll p ↔ ∀ j ∈ items, j.leavesAll p := by
  rw [leavesAll]
  induction items with
  | nil => simp [itemsAll]
  | cons j rest ih => rw [itemsAll, Bool.and_eq_true, ih, List.forall_mem_cons]

theorem leavesAll_obj {entries : List (String × Json)} :
    (obj entries).leavesAll p ↔ ∀ e ∈ entries, e.2.leavesAll p := by
  rw [leavesAll]
  induction entries with
  | nil => simp [entriesAll]
  | cons e rest ih => rw [entriesAll, Bool.and_eq_true, ih, List.forall_mem_cons]

theorem leavesAll_field? (h : j.leavesAll p) {key : String} {v : Json}
    (hv : j.field? key = some v) : v.leavesAll p := by
  cases j with
  | obj entries =>
    obtain ⟨before, after, rfl, -⟩ := List.lookup_eq_some_iff.1 hv
    exact leavesAll_obj.1 h (key, v) (by simp)
  | _ => cases hv

/-! ### Complete values -/

theorem complete_obj {entries : List (String × Json)} :
    (obj entries).Complete ↔ ∀ e ∈ entries, e.2.Complete :=
  leavesAll_obj

theorem complete_arr {items : List Json} : (arr items).Complete ↔ ∀ j ∈ items, j.Complete :=
  leavesAll_arr

theorem complete_str (s : String) : (str s).Complete := rfl

theorem complete_ofFloat {x : Float} (h : x.isFinite) : (ofFloat x).Complete := by
  rw [ofFloat, if_pos h]
  rfl

theorem float?_ofFloat (x : Float) :
    (ofFloat x).float? = if x.isFinite then some x else none := by
  unfold ofFloat
  split <;> rfl

theorem complete_of_nonempty? {items : List Json} (h : ∀ j ∈ items, j.Complete)
    (hj : nonempty? items = some j) : j.Complete := by
  obtain ⟨_, _, -, rfl⟩ := nonempty?_eq_some.1 hj
  exact complete_arr.2 h

theorem complete_map_str {s : Option String} : ∀ j, s.map str = some j → j.Complete := by
  intro j hj
  obtain ⟨t, -, rfl⟩ := Option.map_eq_some_iff.1 hj
  exact complete_str t

/-- No null occurs in the object at any depth. -/
def Object.Complete (o : Object) : Prop :=
  o.toJson.Complete

namespace Object.Complete

theorem empty : Object.empty.Complete := rfl

theorem insert (h : o.Complete) (key : String) (hj : j.Complete) : (o.insert key j).Complete := by
  refine complete_obj.2 fun e he => ?_
  obtain rfl | he := mem_insertEntry he
  · exact hj
  · exact complete_obj.1 h e he

theorem insertSome (h : o.Complete) (key : String) {value : Option Json}
    (hv : ∀ j, value = some j → j.Complete) : (o.insertSome key value).Complete := by
  cases value with
  | none => exact h
  | some j => exact h.insert key (hv j rfl)

theorem insertItems (h : o.Complete) (key : String) {items : List Json}
    (hi : ∀ j ∈ items, j.Complete) : (o.insertSome key (nonempty? items)).Complete :=
  h.insertSome key fun _ hj => complete_of_nonempty? hi hj

theorem withMargins (h : o.Complete) (n : Node) (sides : List String) :
    (sides.foldl (Lineage.withMargin n) o).Complete := by
  induction sides generalizing o with
  | nil => exact h
  | cons side rest ih => exact ih (h.insert side rfl)

theorem withImage (h : o.Complete) (image : String) {strength : Float}
    (finite : strength.isFinite) : (Lineage.withImage o image strength).Complete :=
  (h.insert "image" (complete_str image)).insert "strength" (complete_ofFloat finite)

end Object.Complete

/-- A finite value that is read as a number is read as a finite one. -/
theorem Finite.float? (h : j.Finite) {x : Float} (hx : j.float? = some x) : x.isFinite := by
  cases j with
  | num n =>
    cases hx
    exact h
  | _ => cases hx

end Json

open Json

/-! ### Reading back -/

theorem Flow.ofJson?_toJson (f : Flow) : Flow.ofJson? f.toJson = some f := by
  cases f <;> rfl

theorem Method.ofJson?_toJson (m : Method) : Method.ofJson? m.toJson = some m := by
  cases m <;> rfl

theorem Control.ofJson?_toJson (c : Control) : Control.ofJson? c.toJson = some c := by
  cases c <;> rfl

theorem PreprocessStep.ofJson?_toJson (p : PreprocessStep) :
    PreprocessStep.ofJson? p.toJson = if p.strength.isFinite then some p else none := by
  have control := p.control.ofJson?_toJson
  have strength := float?_ofFloat p.strength
  simp [ofJson?, toJson, record?, Field.required, string?, lookup_cons_eq, control, strength]
  split <;> rfl

/-- An entry carries its image, strength, model and kind, and nothing besides, just if its strength
is finite. -/
theorem ControlEntry.ofJson?_toJson (e : ControlEntry) :
    ControlEntry.ofJson? e.toJson = if e.strength.isFinite then some e else none := by
  have strength := float?_ofFloat e.strength
  simp [ofJson?, toJson, record?, Field.required, string?, lookup_cons_eq, strength]
  split <;> rfl

/-- An adapter carries its id and weight just if its weight is finite. -/
theorem Lora.ofJson?_toJson (l : Lora) :
    Lora.ofJson? l.toJson = if l.weight.isFinite then some l else none := by
  have weight := float?_ofFloat l.weight
  simp [ofJson?, toJson, record?, Field.required, string?, lookup_cons_eq, weight]
  split <;> rfl

theorem MainStep.ofJson?_toJson (m : MainStep) : MainStep.ofJson? m.toJson = some m := by
  have method := m.method.ofJson?_toJson
  have params := m.params.object?_toJson
  simp [ofJson?, toJson, record?, Field.required, lookup_cons_eq, method, params]

/-- Items that are each read back, or not, as they are well formed. -/
theorem listOf?_map {α : Type} {read : Json → Option α} {write : α → Json} {good : α → Bool}
    (each : ∀ a, read (write a) = if good a then some a else none) (items : List α) :
    listOf? read (.arr (items.map write)) = if items.all good then some items else none := by
  change (items.map write).mapM read = _
  induction items with
  | nil => rfl
  | cons a rest ih =>
    rw [List.map_cons, List.mapM_cons, each, ih, List.all_cons]
    cases good a <;> cases rest.all good <;> rfl

/-- A list that is written unless it is empty is read back just if it is not and its items are well
formed. -/
theorem listOf?_nonempty {α : Type} {read : Json → Option α} {write : α → Json} {good : α → Bool}
    (each : ∀ a, read (write a) = if good a then some a else none) (items : List α) :
    (nonempty? (items.map write)).bind (listOf? read) =
      if items ≠ [] ∧ items.all good then some items else none := by
  cases items with
  | nil => rfl
  | cons a rest =>
    change listOf? read (.arr ((a :: rest).map write)) = _
    rw [listOf?_map each]
    exact if_congr (and_iff_right (List.cons_ne_nil a rest)).symm rfl rfl

/-- A request is read back from its data just if the strengths of its steps are finite. -/
theorem Request.ofJson?_toJson (r : Request) :
    Request.ofJson? r.toJson =
      if ∀ p ∈ r.preprocess, p.strength.isFinite then some r else none := by
  have flow := r.flow.ofJson?_toJson
  have steps := listOf?_map PreprocessStep.ofJson?_toJson r.preprocess
  have main := r.main.ofJson?_toJson
  simp [ofJson?, toJson, record?, Field.required, lookup_cons_eq, flow, main, steps]
  split <;> rfl

/-! ### Numbers of a lineage -/

/-- What a compilation reads for numbers is finite. -/
structure Lineage.Finite (l : Lineage) : Prop where
  settings : l.settings.Finite
  data : ∀ a ∈ l.ancestors, a.node.data.Finite
  texts : ∀ a ∈ l.ancestors, a.node.FiniteTexts a.role.numberKeys

def Contribution.Finite : Contribution → Prop
  | entry e => e.strength.isFinite
  | step s => s.strength.isFinite
  | nothing => True

theorem finite_number? {n : Node} {keys : List String} (data : n.data.Finite)
    (texts : n.FiniteTexts keys) {key : String} (hk : key ∈ keys) {x : Float}
    (h : n.number? key = some x) : x.isFinite := by
  unfold Node.number? at h
  split at h
  · rename_i m given
    cases h
    exact leavesAll_field? data given
  · rename_i s given
    have read := texts key hk
    rwa [given, Option.bind_some, string?, Option.all_some, h, Option.all_some] at read
  · cases h

theorem isFinite_getD {x : Option Float} {default : Float} (h : ∀ y, x = some y → y.isFinite)
    (hd : default.isFinite) : (x.getD default).isFinite := by
  cases x with
  | none => exact hd
  | some y => exact h y rfl

theorem complete_entry {e : ControlEntry} (h : e.strength.isFinite) : e.toJson.Complete := by
  simp [ControlEntry.toJson, complete_obj, complete_str, complete_ofFloat h]

theorem complete_step {s : PreprocessStep} (h : s.strength.isFinite) : s.toJson.Complete := by
  have control : s.control.toJson.Complete := by
    cases s.control <;> rfl
  simp [PreprocessStep.toJson, complete_obj, complete_str, control, complete_ofFloat h]

theorem complete_request {r : Request} (main : r.main.params.Complete)
    (steps : ∀ s ∈ r.preprocess, s.strength.isFinite) : r.toJson.Complete := by
  have method : r.main.method.toJson.Complete := rfl
  have params : r.main.params.toJson.Complete := main
  have list : (Json.arr (r.preprocess.map PreprocessStep.toJson)).Complete :=
    complete_arr.2 (List.forall_mem_map.2 fun s hs => complete_step (steps s hs))
  have flow : r.flow.toJson.Complete := rfl
  simp [Request.toJson, MainStep.toJson, complete_obj, flow, method, params, list]

theorem Role.weight_mem_numberKeys (r : Role) (h : r.mayHoldBase = true) :
    "weight" ∈ r.numberKeys := by
  cases r with
  | tool t => cases t <;> simp [numberKeys]
  | kontext k => cases k <;> simp [numberKeys]
  | imageToImage | imageSource | output | passThrough => simp [numberKeys]
  | engine | lora | prompt | controlNet | unsupported => cases h

theorem Lineage.of_mem_withRole {l : Lineage} {r : Role} {a : Classified} (h : a ∈ l.withRole r) :
    a ∈ l.ancestors ∧ a.role = r := by
  obtain ⟨ha, same⟩ := List.mem_filter.1 h
  exact ⟨ha, eq_of_beq same⟩

namespace Lineage.Finite

variable {l : Lineage} (h : l.Finite) {a : Classified}
include h

theorem number? (ha : a ∈ l.ancestors) {key : String} (hk : key ∈ a.role.numberKeys) {x : Float}
    (hx : a.node.number? key = some x) : x.isFinite :=
  finite_number? (h.data a ha) (h.texts a ha) hk hx

theorem numberOr (ha : a ∈ l.ancestors) {key : String} (hk : key ∈ a.role.numberKeys)
    {default : Float} (hd : default.isFinite) :
    ((a.node.number? key).getD default).isFinite :=
  isFinite_getD (fun _ => h.number? ha hk) hd

theorem loraOf? {j : Json} (hj : j.Finite) {lora : Lora} (hl : l.loraOf? j = some lora) :
    lora.weight.isFinite := by
  unfold Lineage.loraOf? at hl
  split at hl
  · split at hl <;> cases hl
    exact h.settings.loraWeight
  · obtain ⟨id, -, hl⟩ := Option.bind_eq_some_iff.1 hl
    cases hl
    refine isFinite_getD (fun x hx => ?_) h.settings.loraWeight
    obtain ⟨key, -, hx⟩ := List.exists_of_findSome?_eq_some hx
    obtain ⟨v, hv, hx⟩ := Option.bind_eq_some_iff.1 hx
    have finite : v.Finite := leavesAll_field? hj hv
    exact finite.float? hx

theorem loraNode? (ha : a ∈ l.withRole .lora) {lora : Lora}
    (hl : l.loraNode? a.node = some lora) : lora.weight.isFinite := by
  obtain ⟨ha, role⟩ := of_mem_withRole ha
  obtain ⟨id, -, hl⟩ := Option.bind_eq_some_iff.1 hl
  cases hl
  refine isFinite_getD (fun x hx => ?_) h.settings.loraWeight
  obtain hx | hx := either_of_orElse hx
  · exact h.number? ha (by simp [role, Role.numberKeys]) hx
  · exact h.number? ha (by simp [role, Role.numberKeys]) hx

theorem loras : ∀ lora ∈ l.loras, lora.weight.isFinite := by
  intro lora hl
  obtain hl | hl := List.mem_append.1 hl
  · obtain ⟨a, ha, hl⟩ := List.mem_flatMap.1 hl
    obtain ⟨j, hj, hl⟩ := List.mem_filterMap.1 hl
    refine h.loraOf? ?_ hl
    cases given : (a.node.attribute? "loras").bind array? with
    | none =>
      rw [given] at hj
      cases hj
    | some items =>
      rw [given] at hj
      obtain ⟨v, hv, items⟩ := Option.bind_eq_some_iff.1 given
      have finite : v.Finite := leavesAll_field? (h.data a (List.mem_of_mem_filter ha)) hv
      cases v with
      | arr items' =>
        cases items
        exact leavesAll_arr.1 finite j hj
      | _ => cases items
  · obtain ⟨a, ha, hl⟩ := List.mem_filterMap.1 hl
    rw [List.mem_mergeSort] at ha
    exact h.loraNode? ha hl

theorem seedImage? {image : String} {strength : Float}
    (hs : l.seedImage? = some (image, strength)) : strength.isFinite := by
  obtain ⟨a, ha, hs⟩ := List.exists_of_findSome?_eq_some hs
  obtain ⟨own, -, hs⟩ := Option.map_eq_some_iff.1 hs
  cases hs
  obtain ⟨ha, role⟩ := of_mem_withRole ha
  exact h.numberOr ha (by simp [role, Role.numberKeys]) h.settings.i2iStrength

theorem imageStrength : l.imageStrength.isFinite := by
  refine isFinite_getD (fun x hx => ?_) h.settings.i2iStrength
  obtain ⟨a, ha, hx⟩ := List.exists_of_findSome?_eq_some hx
  obtain ⟨ha, role⟩ := of_mem_withRole ha
  obtain hx | hx := either_of_orElse hx
  · exact h.number? ha (by simp [role, Role.numberKeys]) hx
  · exact h.number? ha (by simp [role, Role.numberKeys]) hx

theorem contribution (ha : a ∈ l.ancestors) {c : Control} (role : a.role = .controlNet c)
    {found : Contribution} (hc : l.contribution a.node c = .ok found) : found.Finite := by
  have strength : ((a.node.number? "strength").getD
      l.settings.defaultControlnetStrength).isFinite :=
    h.numberOr ha (by simp [role, Role.numberKeys]) h.settings.controlnetStrength
  unfold Lineage.contribution at hc
  split at hc
  · split at hc <;> cases hc
    · exact strength
    · exact strength
    · trivial
  · cases hc

/-! ### Parameters -/

theorem generativeParams : l.generativeParams.Complete := by
  have loras : ∀ j ∈ l.loras.map Lora.toJson, j.Complete := by
    refine List.forall_mem_map.2 fun lora hl => ?_
    simp [Lora.toJson, complete_obj, complete_str, complete_ofFloat (h.loras lora hl)]
  exact (((Object.Complete.empty.insert "model" (complete_str l.model)).insertItems "loras"
    loras).insertSome "positivePrompt" complete_map_str).insertSome "negativePrompt"
    complete_map_str

theorem mainWith {entries : List ControlEntry} (he : ∀ e ∈ entries, e.strength.isFinite) :
    (l.mainWith entries).params.Complete := by
  have items : ∀ j ∈ entries.map ControlEntry.toJson, j.Complete :=
    List.forall_mem_map.2 fun e hm => complete_entry (he e hm)
  have params := h.generativeParams.insertItems "controlnet" items
  unfold Lineage.mainWith
  cases hs : l.seedImage? with
  | none => exact params
  | some seed => exact params.withImage seed.1 (h.seedImage? hs)

theorem toolStep (ha : a ∈ l.ancestors) {t : Tool} (role : a.role = .tool t) {params : Object}
    (start : params.Complete) {main : MainStep} (ok : l.toolStep a.node params t = .ok main) :
    main.params.Complete := by
  cases t with
  | upscale =>
    cases ok
    have scale : ((a.node.number? "scale").getD l.settings.defaultUpscaleFactor).isFinite :=
      h.numberOr ha (by simp [role, Role.numberKeys]) h.settings.upscaleFactor
    exact ((start.insert "scale" (complete_ofFloat scale)).insert "upscaleModel"
      (complete_str _)).insert "faceEnhance" rfl
  | removeBackground =>
    cases ok
    exact start
  | inpaint =>
    simp only [Lineage.toolStep] at ok
    split at ok <;> cases ok
    exact (start.insert "mask" (complete_str _)).insertSome "prompt" complete_map_str
  | outpaint =>
    cases ok
    exact (start.withMargins a.node _).insertSome "prompt" complete_map_str

theorem adapters : ∀ j ∈ l.adapters, j.Complete := by
  intro j hj
  obtain ⟨a, ha, hj⟩ := List.mem_filterMap.1 hj
  obtain ⟨image, -, rfl⟩ := Option.map_eq_some_iff.1 hj
  obtain ⟨ha, candidate⟩ := List.mem_filter.1 ha
  have key : "weight" ∈ a.role.numberKeys :=
    a.role.weight_mem_numberKeys (Bool.and_eq_true_iff.1 candidate).2
  have weight : ((a.node.number? "weight").getD l.settings.defaultRemixWeight).isFinite :=
    h.numberOr ha key h.settings.remixWeight
  simp [complete_obj, complete_str, complete_ofFloat weight]

theorem kontextStep (ha : a ∈ l.ancestors) {k : Kontext} (role : a.role = .kontext k)
    {main : MainStep} (ok : l.kontextStep a.node k = .ok main) : main.params.Complete := by
  have empty := Object.Complete.empty
  cases k with
  | reference =>
    obtain ⟨image, -, ok⟩ := bind_eq_ok.1 ok
    cases ok
    exact (empty.insert "image" (complete_str image)).insert "prompt" (complete_str _)
  | rescene =>
    obtain ⟨scene, -, ok⟩ := bind_eq_ok.1 ok
    obtain ⟨subject, -, ok⟩ := bind_eq_ok.1 ok
    cases ok
    exact ((empty.insert "sceneImage" (complete_str scene)).insert "objectImage"
      (complete_str subject)).insert "prompt" (complete_str _)
  | reangle =>
    obtain ⟨image, -, ok⟩ := bind_eq_ok.1 ok
    cases ok
    have angle : ((a.node.number? "angle").getD l.settings.defaultReangleAngle).isFinite :=
      h.numberOr ha (by simp [role, Role.numberKeys]) h.settings.reangleAngle
    exact (((empty.insert "image" (complete_str image)).insert "angle"
      (complete_ofFloat angle)).insert "direction" (complete_str _)).insert "prompt"
      (complete_str _)
  | remix =>
    simp only [Lineage.kontextStep] at ok
    split at ok <;> cases ok
    rename_i items found
    exact (empty.insert "ipAdapters" (complete_of_nonempty? h.adapters found)).insert "prompt"
      (complete_str _)

/-! ### The request -/

theorem contributions {found : List Contribution}
    (hc : l.contributions l.controls = .ok found) : ∀ c ∈ found, c.Finite := by
  intro c hm
  obtain ⟨p, hp, made⟩ := exists_control hc hm
  obtain ⟨a, ha, same, role⟩ := node_of_mem_controls hp
  rw [← same] at made
  exact h.contribution ha role made

theorem withContributions {found : List Contribution}
    (hc : l.contributions l.controls = .ok found) :
    (l.withContributions found).main.params.Complete ∧
      ∀ s ∈ (l.withContributions found).preprocess, s.strength.isFinite := by
  refine ⟨h.mainWith fun e he => ?_, fun s hs => ?_⟩
  · obtain ⟨c, hm, entry⟩ := List.mem_filterMap.1 he
    have finite := h.contributions hc c hm
    cases c <;> cases entry
    exact finite
  · obtain ⟨c, hm, step⟩ := List.mem_filterMap.1 hs
    have finite := h.contributions hc c hm
    cases c <;> cases step
    exact finite

theorem request {r : Request} (ok : l.request = .ok r) :
    r.main.params.Complete ∧ ∀ s ∈ r.preprocess, s.strength.isFinite := by
  cases request_makes ok with
  | tool _ first _ step =>
    obtain ⟨ha, role⟩ := mem_of_firstTool? first
    exact ⟨h.toolStep ha role (Object.Complete.empty.insert "image" (complete_str _)) step,
      List.forall_mem_nil _⟩
  | kontext _ first step =>
    obtain ⟨ha, role⟩ := mem_of_firstKontext? first
    exact ⟨h.kontextStep ha role step, List.forall_mem_nil _⟩
  | imageToImage =>
    exact ⟨h.generativeParams.withImage _ h.imageStrength, List.forall_mem_nil _⟩
  | textToImage prompts => exact h.withContributions prompts.contributed

end Lineage.Finite

section

variable {settings : Settings} {nodes : List Node} {edges : List Edge} {target : NodeId}

/-- Where the settings and the ancestors have finite numbers, and no text is read as a number that
is not finite, a request has no null in its data, at any depth, and is read back from it. -/
theorem compile_carried (finite : settings.Finite)
    (data : ∀ n ∈ ancestors nodes edges target, n.data.Finite)
    (texts : ∀ n ∈ ancestors nodes edges target, n.FiniteTexts n.role.numberKeys) {r : Request}
    (ok : compile settings nodes edges target = .ok r) :
    r.toJson.Complete ∧ Request.ofJson? r.toJson = some r := by
  have lineage : (lineageOf settings nodes edges target).Finite := by
    refine ⟨finite, List.forall_mem_map.2 data, List.forall_mem_map.2 fun n hn => ?_⟩
    simp only [Node.classify]
    exact texts n hn
  obtain ⟨params, steps⟩ := lineage.request (compile_eq_ok.1 ok).2
  refine ⟨complete_request params steps, ?_⟩
  rw [Request.ofJson?_toJson, if_pos steps]

end

theorem settings_finite : ({} : Settings).Finite := by
  constructor <;> decide +kernel

/-- One strength is a number and one a text. -/
theorem compile_carried_text :
    let nodes : List Node := [⟨"out", "output", .null⟩,
      ⟨"depth", "control-net-depth", .obj [("guideUrl", .str "/g"), ("strength", .str " 0.5 ")]⟩,
      ⟨"pose", "control-net-pose",
        .obj [("imageId", .str "1"), ("strength", .num (.float 0.25))]⟩]
    let edges : List Edge := [⟨"1", "depth", "out"⟩, ⟨"2", "pose", "out"⟩]
    (({} : Settings).Finite ∧ (∀ n ∈ ancestors nodes edges "out", n.data.Finite) ∧
      ∀ n ∈ ancestors nodes edges "out", n.FiniteTexts n.role.numberKeys) ∧
    ∃ r, compile {} nodes edges "out" = .ok r ∧
      r.toJson.Complete ∧ Request.ofJson? r.toJson = some r := by
  intro nodes edges
  have data : ∀ n ∈ ancestors nodes edges "out", n.data.Finite := by decide +kernel
  have texts : ∀ n ∈ ancestors nodes edges "out", n.FiniteTexts n.role.numberKeys := by
    decide +kernel
  have compiles : (compile {} nodes edges "out").isOk := by decide +kernel
  refine ⟨⟨settings_finite, data, texts⟩, ?_⟩
  obtain ⟨r, ok⟩ := exists_ok_of_isOk compiles
  exact ⟨r, ok, compile_carried settings_finite data texts ok⟩

/-- A text that is read as a number that is not finite leaves null in the place of its number, and a
request with such a step is not read back. -/
theorem compile_carries_null :
    let nodes : List Node := [⟨"out", "output", .null⟩,
      ⟨"depth", "control-net-depth", .obj [("guideUrl", .str "/g"), ("strength", .str "nan")]⟩,
      ⟨"pose", "control-net-pose", .obj [("imageId", .str "1"), ("strength", .str "1e999")]⟩]
    let edges : List Edge := [⟨"1", "depth", "out"⟩, ⟨"2", "pose", "out"⟩]
    (({} : Settings).Finite ∧ ∀ n ∈ nodes, n.data.Finite) ∧
    ∃ r, compile {} nodes edges "out" = .ok r ∧ ¬ r.toJson.Complete ∧
      Request.ofJson? r.toJson = none := by
  intro nodes edges
  have data : ∀ n ∈ nodes, n.data.Finite := by decide +kernel
  have lost : (compile {} nodes edges "out").toOption.any fun r =>
      ¬ r.toJson.Complete && (Request.ofJson? r.toJson).isNone := by decide +kernel
  refine ⟨⟨settings_finite, data⟩, ?_⟩
  cases ok : compile {} nodes edges "out" with
  | error e => rw [ok] at lost; cases lost
  | ok r =>
    rw [ok] at lost
    simpa [Except.toOption] using lost

end ImageGraph
