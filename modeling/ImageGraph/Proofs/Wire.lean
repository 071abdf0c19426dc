import ImageGraph.Event
import ImageGraph.Proofs.Request.Snapshot
import ImageGraph.Proofs.Timestamp
import ImageGraph.Service.Output
import ImageGraph.Store.Record

/-! Values as data: whatever is written is read back. So no two values of one type are written
alike, though a text inside one may be any text and the data of a node any data. -/

namespace ImageGraph

open Json

/-- What is read back is written unlike anything else. -/
theorem injective_of_read {α : Type} {write : α → Json} {read : Json → Option α}
    (back : ∀ a, read (write a) = some a) : Function.Injective write := by
  intro a b same
  have read_a := back a
  rw [same, back b] at read_a
  exact (Option.some.inj read_a).symm

/-! ### Roles -/

theorem Polarity.ofJson?_toJson (p : Polarity) : Polarity.ofJson? p.toJson = some p := by
  cases p <;> rfl

theorem Tool.ofJson?_toJson (t : Tool) : Tool.ofJson? t.toJson = some t := by
  cases t <;> rfl

theorem Kontext.ofJson?_toJson (k : Kontext) : Kontext.ofJson? k.toJson = some k := by
  cases k <;> rfl

namespace Role

theorem ofParts?_content? (r : Role) : ofParts? r.tag r.content? = some r := by
  cases r with
  | prompt p => exact congrArg (Option.map prompt) p.ofJson?_toJson
  | controlNet c => exact congrArg (Option.map controlNet) c.ofJson?_toJson
  | tool t => exact congrArg (Option.map Role.tool) t.ofJson?_toJson
  | kontext k => exact congrArg (Option.map kontext) k.ofJson?_toJson
  | unsupported | engine | lora | imageToImage | imageSource | output | passThrough => rfl

theorem ofJson?_toJson (r : Role) : ofJson? r.toJson = some r := by
  have parts := r.ofParts?_content?
  unfold toJson
  cases content : r.content? with
  | none => simpa [ofJson?, lookup_cons_eq, tag?, content] using parts
  | some c => simpa [ofJson?, lookup_cons_eq, tag?, content] using parts

end Role

/-! ### Events -/

theorem Json.uint64?_ofUInt64 (n : UInt64) : uint64? (ofUInt64 n) = some n := by
  have within : 0 ≤ (n.toNat : Int) ∧ (n.toNat : Int) < UInt64.size :=
    ⟨Int.natCast_nonneg _, Int.ofNat_lt.2 n.toNat_lt_size⟩
  rw [uint64?, ofUInt64, ofNat, int?, Number.toInt?, Option.bind_some, if_pos within,
    Int.toNat_natCast, UInt64.ofNat_toNat]

/-- The number stands under its key as any value that is read as it, since evaluating the reading
would count up to the bound of 64 bits. -/
private theorem Event.ofJson?_uploads {output : String} {uploaded : UInt64} {written : Json}
    (back : uint64? written = some uploaded) :
    ofJson? (.obj [("outputNodeId", .str output), ("type", .str "uploadsCompleted"),
      ("uploaded", written)]) = some (uploadsCompleted output uploaded) := by
  change (uint64? written).bind (fun n => some (uploadsCompleted output n)) = _
  rw [back, Option.bind_some]

theorem Event.ofJson?_toJson (e : Event) : ofJson? e.toJson = some e := by
  cases e with
  | executionStarted | preprocessCompleted | generationSucceeded => rfl
  | uploadsCompleted output uploaded => exact ofJson?_uploads (uint64?_ofUInt64 uploaded)
  | generationStarted _ _ flow => cases flow <;> rfl
  | generationFailed generation => cases generation <;> rfl

/-! ### Workflows -/

theorem Edge.ofJson?_toJson (e : Edge) : Edge.ofJson? e.toJson = some e := rfl

theorem Node.ofJson?_toJson (n : Node) : Node.ofJson? n.toJson = some n := rfl

/-- Items that are each read back make up a list that is. -/
theorem Json.listOf?_map_of_back {α : Type} {read : Json → Option α} {write : α → Json}
    (back : ∀ a, read (write a) = some a) (items : List α) :
    listOf? read (.arr (items.map write)) = some items := by
  have each : ∀ a, read (write a) = if (fun _ => true) a then some a else none := back
  rw [listOf?_map each, List.all_eq_true.2 fun _ _ => rfl, if_pos rfl]

theorem Workflow.ofJson?_toJson (w : Workflow) : Workflow.ofJson? w.toJson = some w := by
  have nodes := listOf?_map_of_back Node.ofJson?_toJson w.nodes
  have edges := listOf?_map_of_back Edge.ofJson?_toJson w.edges
  change (listOf? Node.ofJson? (.arr (w.nodes.map Node.toJson))).bind (fun nodes =>
    (listOf? Edge.ofJson? (.arr (w.edges.map Edge.toJson))).bind fun edges =>
      some { w with nodes, edges }) = some w
  rw [nodes, Option.bind_some, edges, Option.bind_some]

/-! ### Records -/

theorem Timestamp.ofJson?_toJson {t : Timestamp} (h : t.Proper) :
    Timestamp.ofJson? t.toJson = some t := by
  rw [Timestamp.ofJson?, Timestamp.toJson, string?, Option.bind_some, parse?_text h]

theorem Status.choice?_name (s : Status) : choice? all name (.str s.name) = some s := by
  cases s <;> rfl

theorem Json.Field.optional_given {α : Type} (read : Json → Option α) (j : Json) :
    (given j).optional read = if j.isNull then some none else (read j).map some := by
  cases j <;> rfl

/-- A value that may be missing is read back if it is never written as null. -/
theorem Json.Field.optional_ofOption {α : Type} {read : Json → Option α} {write : α → Json}
    {value : Option α} (back : ∀ a ∈ value, read (write a) = some a)
    (plain : ∀ a ∈ value, (write a).isNull = false) :
    (given (ofOption write value)).optional read = some value := by
  cases value with
  | none => rfl
  | some a =>
    rw [ofOption, optional_given, plain a rfl, back a rfl]
    rfl

/-- A record with proper times is read back, but for its place in the order of creation and for a
response that says nothing. -/
theorem Record.ofJson?_toJson (r : Record) (created : r.createdAt.Proper)
    (started : ∀ t ∈ r.startedAt, t.Proper) (ended : ∀ t ∈ r.endedAt, t.Proper) :
    Record.ofJson? r.toJson =
      some { r with response := r.response.filter fun j => !j.isNull, seq := 0 } := by
  have status := r.status.choice?_name
  have createdAt := Timestamp.ofJson?_toJson created
  have startedAt : (Field.given (ofOption Timestamp.toJson r.startedAt)).optional
      Timestamp.ofJson? = some r.startedAt :=
    Field.optional_ofOption (fun t ht => Timestamp.ofJson?_toJson (started t ht)) fun _ _ => rfl
  have endedAt : (Field.given (ofOption Timestamp.toJson r.endedAt)).optional
      Timestamp.ofJson? = some r.endedAt :=
    Field.optional_ofOption (fun t ht => Timestamp.ofJson?_toJson (ended t ht)) fun _ _ => rfl
  have error : (Field.given (ofOption .str r.error)).optional string? = some r.error :=
    Field.optional_ofOption (fun _ _ => rfl) fun _ _ => rfl
  have response : (Field.given (r.response.getD .null)).optional some =
      some (r.response.filter fun j => !j.isNull) := by
    cases r.response with
    | none => rfl
    | some j => cases j <;> rfl
  obtain ⟨field, read, fields⟩ : ∃ field,
      r.toJson.record? ["id", "workflowId", "outputNodeId", "request", "response", "status",
        "createdAt", "startedAt", "endedAt", "error"] = some field ∧
      field "id" = .given (.str r.id) ∧ field "workflowId" = .given (.str r.workflowId) ∧
      field "outputNodeId" = .given (.str r.outputNodeId) ∧ field "request" = .given r.request ∧
      field "response" = .given (r.response.getD .null) ∧
      field "status" = .given (.str r.status.name) ∧
      field "createdAt" = .given r.createdAt.toJson ∧
      field "startedAt" = .given (ofOption Timestamp.toJson r.startedAt) ∧
      field "endedAt" = .given (ofOption Timestamp.toJson r.endedAt) ∧
      field "error" = .given (ofOption .str r.error) :=
    ⟨_, rfl, rfl, rfl, rfl, rfl, rfl, rfl, rfl, rfl, rfl, rfl⟩
  simp only [ofJson?, read, fields, Field.required, string?, Option.pure_def, Option.bind_eq_bind,
    Option.bind_some, response, status, createdAt, startedAt, endedAt, error]

/-! ### What the service answers -/

theorem UploadedImage.ofJson?_toJson (u : UploadedImage) :
    UploadedImage.ofJson? u.toJson = some u := rfl

theorem Json.int64?_ofInt64 (n : Int64) : int64? (ofInt64 n) = some n := by
  have within : Int64.minValue.toInt ≤ n.toInt ∧ n.toInt ≤ Int64.maxValue.toInt :=
    ⟨n.minValue_le_toInt, n.toInt_le⟩
  rw [int64?, ofInt64, int?, Number.toInt?, Option.bind_some, if_pos within, Int64.ofInt_toInt]

theorem Output.ofJson?_toJson (o : Output) : Output.ofJson? o.toJson = some o := by
  have texts (text : Option String) :
      (Field.given (ofOption .str text)).optional string? = some text :=
    Field.optional_ofOption (fun _ _ => rfl) fun _ _ => rfl
  have seed : (Field.given (ofOption ofInt64 o.seed)).optional int64? = some o.seed :=
    Field.optional_ofOption (fun n _ => int64?_ofInt64 n) fun _ _ => rfl
  have nsfw : (Field.given (ofOption .bool o.nsfw)).optional bool? = some o.nsfw :=
    Field.optional_ofOption (fun _ _ => rfl) fun _ _ => rfl
  obtain ⟨field, read, fields⟩ : ∃ field,
      o.toJson.record? ["imageUrl", "imageId", "seed", "prompt", "nsfw"] = some field ∧
      field "imageUrl" = .given (.str o.imageUrl) ∧
      field "imageId" = .given (ofOption .str o.imageId) ∧
      field "seed" = .given (ofOption ofInt64 o.seed) ∧
      field "prompt" = .given (ofOption .str o.prompt) ∧
      field "nsfw" = .given (ofOption .bool o.nsfw) :=
    ⟨_, rfl, rfl, rfl, rfl, rfl, rfl⟩
  simp only [ofJson?, read, fields, Field.required, string?, Option.pure_def, Option.bind_eq_bind,
    Option.bind_some, texts, seed, nsfw]

/-! ### All that is sent or kept -/

/-- A request with finite strengths is written unlike any other, finite or not. -/
theorem Request.eq_of_toJson_eq {r r' : Request} (finite : ∀ s ∈ r.preprocess, s.strength.isFinite)
    (same : r.toJson = r'.toJson) : r = r' := by
  have back := r.ofJson?_toJson
  rw [if_pos finite, same, r'.ofJson?_toJson] at back
  split at back
  · exact (Option.some.inj back).symm
  · cases back

/-- Roles, events, workflows and main steps are read back from what they are written as, and so is a
request just if its strengths are finite. No two of these are written alike, and what a finite
request is written as stands for no other request. -/
theorem values_read_back :
    (∀ r : Role, Role.ofJson? r.toJson = some r) ∧
    (∀ e : Event, Event.ofJson? e.toJson = some e) ∧
    (∀ w : Workflow, Workflow.ofJson? w.toJson = some w) ∧
    (∀ m : MainStep, MainStep.ofJson? m.toJson = some m) ∧
    (∀ r : Request, Request.ofJson? r.toJson = some r ↔
      ∀ s ∈ r.preprocess, s.strength.isFinite) ∧
    Function.Injective Role.toJson ∧ Function.Injective Event.toJson ∧
    Function.Injective Workflow.toJson ∧ Function.Injective MainStep.toJson ∧
    ∀ r r' : Request, (∀ s ∈ r.preprocess, s.strength.isFinite) → r.toJson = r'.toJson →
      r = r' := by
  refine ⟨Role.ofJson?_toJson, Event.ofJson?_toJson, Workflow.ofJson?_toJson,
    MainStep.ofJson?_toJson, fun r => ?_, injective_of_read Role.ofJson?_toJson,
    injective_of_read Event.ofJson?_toJson, injective_of_read Workflow.ofJson?_toJson,
    injective_of_read MainStep.ofJson?_toJson, fun _ _ => Request.eq_of_toJson_eq⟩
  rw [r.ofJson?_toJson]
  split
  · rename_i finite
    exact iff_of_true rfl finite
  · rename_i lost
    exact iff_of_false nofun lost

/-- A step whose kind of control is a text that names a kind, and parameters with parts. -/
theorem values_read_back_other :
    let step : PreprocessStep := ⟨"n", .other "pose", "1", "openpose", 0.5, "m"⟩
    let params : Json.Object := .ofList [("b", .arr [.null, .obj []]), ("", .str "null")]
    let r : Request := ⟨.textToImage, [step], .txt2img, params⟩
    (∀ s ∈ r.preprocess, s.strength.isFinite) ∧ Request.ofJson? r.toJson = some r ∧
      ∀ r' : Request, r.toJson = r'.toJson → r = r' := by
  intro step params r
  have finite : ∀ s ∈ r.preprocess, s.strength.isFinite := by decide +kernel
  obtain ⟨-, -, -, -, back, -, -, -, -, apart⟩ := values_read_back
  exact ⟨finite, (back r).2 finite, fun r' => apart r r' finite⟩

end ImageGraph
