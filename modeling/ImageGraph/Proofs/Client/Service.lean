import Mathlib.Data.List.TakeWhile
import ImageGraph.Rehearsal.Library
import ImageGraph.Request.Wire
import ImageGraph.Text.Affix

/-! Calls of the service over HTTP, by any library. Whatever the peer does, a call whose request is
not refused makes that one request, and comes to what the delivery says before anything is taken
from the response; a call whose request is refused makes none. -/

namespace ImageGraph.Client

variable (lib : Library)

/-! ### Deliveries -/

/-- A body in UTF-8 is read as its text. -/
theorem ofBytes?_toUTF8 (text : String) : Json.ofBytes? text.toUTF8 = Json.parse? text := by
  have whole : String.fromUTF8? text.toUTF8 = some text := dif_pos text.isValidUTF8
  rw [Json.ofBytes?, whole, Option.bind_some]

/-- What a delivery comes to: a connection without a response, a status other than success, a body
that breaks off or is no JSON, or else the JSON of the body. -/
inductive ComesTo : Delivery → Except ServiceError Json → Prop where
  | unreachable (reason : String) :
      ComesTo (.unreachable reason) (.error (.transport ("HTTP error: " ++ reason)))
  | dropped (reason : String) :
      ComesTo (.dropped reason) (.error (.transport ("HTTP error: " ++ reason)))
  | refused {r : Response} {bytes : ByteArray} : ¬ (200 ≤ r.status ∧ r.status < 300) →
      r.body = .ok bytes →
      ComesTo (.answered r) (.error (.status r.status (lib.text r.contentType bytes)))
  | refusedBroken {r : Response} {reason : String} : ¬ (200 ≤ r.status ∧ r.status < 300) →
      r.body = .error reason → ComesTo (.answered r) (.error (.status r.status ""))
  | broken {r : Response} {reason : String} : 200 ≤ r.status → r.status < 300 →
      r.body = .error reason →
      ComesTo (.answered r) (.error (.invalidResponse ("Failed to parse response: " ++ reason)))
  | garbled {r : Response} {bytes : ByteArray} : 200 ≤ r.status → r.status < 300 →
      r.body = .ok bytes → Json.ofBytes? bytes = none →
      ComesTo (.answered r)
        (.error (.invalidResponse ("Failed to parse response: " ++ lib.jsonFault bytes)))
  | json {r : Response} {bytes : ByteArray} {value : Json} : 200 ≤ r.status → r.status < 300 →
      r.body = .ok bytes → Json.ofBytes? bytes = some value → ComesTo (.answered r) (.ok value)

theorem comesTo_response (r : Response) :
    ComesTo lib (.answered r) ((r.json lib).mapError ClientError.toServiceError) := by
  by_cases success : 200 ≤ r.status ∧ r.status < 300
  · rw [Response.json, if_pos success]
    cases whole : r.body with
    | error reason => exact .broken success.1 success.2 whole
    | ok bytes =>
      cases read : Json.ofBytes? bytes with
      | none => simpa only [read] using .garbled success.1 success.2 whole read
      | some value => simpa only [read] using .json success.1 success.2 whole read
  · rw [Response.json, if_neg success]
    cases whole : r.body with
    | error reason => exact .refusedBroken success whole
    | ok bytes => exact .refused success whole

/-- Each delivery comes to one thing. -/
theorem comesTo_iff {delivery : Delivery} {answer : Except ServiceError Json} :
    ComesTo lib delivery answer ↔
      answer = (delivery.json lib).mapError ClientError.toServiceError := by
  refine ⟨fun comes => ?_, ?_⟩
  · cases comes with
    | unreachable | dropped => rfl
    | refused other whole | refusedBroken other whole =>
      simp only [Delivery.json, Response.json, if_neg other, whole]
      rfl
    | broken low high whole =>
      simp only [Delivery.json, Response.json, if_pos (And.intro low high), whole]
      rfl
    | garbled low high whole read | json low high whole read =>
      simp only [Delivery.json, Response.json, if_pos (And.intro low high), whole, read]
      rfl
  · rintro rfl
    cases delivery with
    | unreachable reason => exact .unreachable reason
    | dropped reason => exact .dropped reason
    | answered response => exact comesTo_response lib response

/-! ### Requests -/

/-- The request to a path below the base URL: a POST to the address that is the base URL without the
slashes at its end, a slash and the path, with the key as it is configured. -/
structure Addressed (s : Settings) (path : String) (body : Body) (r : HttpRequest) : Prop where
  verb : r.verb = "POST"
  endpoint : ∃ root n, s.baseUrl = root ++ String.ofList (List.replicate n '/') ∧
    Text.endsWith "/" root = false ∧ r.endpoint = root ++ "/" ++ path
  bearer : r.bearer = s.apiKey
  body : r.body = body

theorem exists_eq_dropWhile_append (mark : Char) (text : List Char) :
    ∃ n, text = (text.reverse.dropWhile (· = mark)).reverse ++ List.replicate n mark := by
  have marks : ∀ c ∈ text.reverse.takeWhile (· = mark), c = mark := fun c hc =>
    of_decide_eq_true (List.all_eq_true.1 List.all_takeWhile c hc)
  refine ⟨(text.reverse.takeWhile (· = mark)).length, ?_⟩
  rw [← List.reverse_replicate, ← List.eq_replicate_of_mem marks, ← List.reverse_append,
    List.takeWhile_append_dropWhile, List.reverse_reverse]

namespace Settings

variable (s : Settings)

/-- A path without the slashes in front. -/
def below (path : String) : String :=
  String.ofList (path.toList.dropWhile (· = '/'))

theorem addressed_request (path : String) (body : Body) :
    Addressed s (below path) body (s.request path body) := by
  obtain ⟨n, whole⟩ := exists_eq_dropWhile_append '/' s.baseUrl.toList
  refine ⟨rfl, ⟨String.ofList (s.baseUrl.toList.reverse.dropWhile (· = '/')).reverse, n, ?_, ?_,
    ?_⟩, rfl, rfl⟩
  · exact String.toList_inj.1 (by simpa using whole)
  · refine Bool.eq_false_iff.2 fun closed => ?_
    obtain ⟨before, same⟩ := Text.endsWith_iff.1 closed
    -- A slash in front of the slashes that are left out would have been left out with them.
    have first : (s.baseUrl.toList.reverse.dropWhile (· = '/')).head? = some '/' := by
      have ends := congrArg (fun t => t.toList.getLast?) same
      simpa using ends
    have other := List.head?_dropWhile_not (fun c => decide (c = '/')) s.baseUrl.toList.reverse
    rw [first] at other
    simp at other
  · exact String.toList_inj.1 (by simp [request, endpoint, below])

end Settings

/-! ### Calls -/

section

variable {σ α : Type} (peer : HttpRequest → StateM σ Delivery)

/-- A call that makes this one request and nothing else: it comes to what is taken from what the
delivery comes to. -/
def Makes (r : HttpRequest) (call : StateM σ (Except ServiceError α))
    (take : Json → Except ServiceError α) : Prop :=
  ∀ before, ∃ answer, ComesTo lib ((peer r).run before).1 answer ∧
    call.run before = (answer >>= take, ((peer r).run before).2)

/-- A call that makes no request and fails. -/
def MakesNone (call : StateM σ (Except ServiceError α)) (message : String) : Prop :=
  ∀ before, call.run before = (.error (.transport message), before)

/-- A call that makes this one request, unless the library refuses to send to its address with its
key: then the call makes none. -/
structure Posts (r : HttpRequest) (call : StateM σ (Except ServiceError α))
    (take : Json → Except ServiceError α) : Prop where
  makes : lib.refusal? r.endpoint r.bearer = none → Makes lib peer r call take
  refused : ∀ reason, lib.refusal? r.endpoint r.bearer = some reason →
    MakesNone call ("HTTP error: " ++ reason)

variable {lib peer} in
theorem Posts.run_eq {r : HttpRequest} {call : StateM σ (Except ServiceError α)}
    {take : Json → Except ServiceError α} (posts : Posts lib peer r call take)
    (free : lib.refusal? r.endpoint r.bearer = none) {before after : σ} {delivery : Delivery}
    (sent : (peer r).run before = (delivery, after)) :
    call.run before =
      ((delivery.json lib).mapError ClientError.toServiceError >>= take, after) := by
  obtain ⟨answer, comes, run⟩ := posts.makes free before
  rw [run, sent] at *
  rw [(comesTo_iff lib).1 comes]

end

namespace Settings

/-- The path of a call. -/
def pathOf (s : Settings) : ServiceCall → String
  | .upload _ => s.uploadPath
  | .preprocess _ _ => s.preprocessPath
  | .main step => step.method.name

/-- What a call sends. -/
def bodyOf : ServiceCall → Except ClientError Body
  | .upload data => imageForm lib data
  | .preprocess image preprocessor =>
    .ok (.json (.obj [("image", .str image), ("preprocessor", .str preprocessor)]))
  | .main step => .ok (.json step.params.toJson)

/-- What a call takes from a response. -/
def taken : (c : ServiceCall) → Json → c.Answer
  | .upload _, response => (parseUpload response).mapError ClientError.toServiceError
  | .preprocess _ _, response => (parseGuide response).mapError ClientError.toServiceError
  | .main _, response => .ok response

section

variable {lib} {σ : Type} (peer : HttpRequest → StateM σ Delivery) {body : Body}

/-- The function for a method calls that method. -/
theorem dispatch_eq (s : Settings) (step : MainStep) :
    (s.service lib peer).dispatch step = s.call lib peer step.method step.params := by
  obtain ⟨method, params⟩ := step
  cases method <;> rfl

/-- A call posts its body to its path, and takes from the response what it takes. -/
theorem answer_eq (s : Settings) (c : ServiceCall) (h : bodyOf lib c = .ok body) :
    (s.service lib peer).answer c =
      (fun response => response.mapError ClientError.toServiceError >>= taken c) <$>
        s.post lib peer (s.pathOf c) body := by
  have pass {α : Type} (take : Json → Except ClientError α) (response : Except ClientError Json) :
      (response >>= take).mapError ClientError.toServiceError =
        response.mapError ClientError.toServiceError >>=
          fun json => (take json).mapError ClientError.toServiceError := by
    cases response <;> rfl
  cases c with
  | upload data =>
    change imageForm lib data = .ok body at h
    change s.uploadImage lib peer data = _
    simp only [uploadImage, h, pass, bind_pure_comp]
    rfl
  | preprocess image preprocessor =>
    cases h
    change s.preprocess lib peer image preprocessor = _
    simp only [preprocess, pass, bind_pure_comp]
    rfl
  | main step =>
    cases h
    have kept (response : Except ServiceError Json) :
        response >>= taken (.main step) = response := by
      cases response <;> rfl
    change (s.service lib peer).dispatch step = _
    simp only [dispatch_eq, call, kept, bind_pure_comp]
    rfl

theorem posts_answer (s : Settings) {c : ServiceCall} (h : bodyOf lib c = .ok body) :
    Posts lib peer (s.request (s.pathOf c) body) ((s.service lib peer).answer c) (taken c) where
  makes free before := by
    refine ⟨_, (comesTo_iff lib).2 rfl, ?_⟩
    rw [answer_eq peer s c h]
    simp only [post, free]
    rfl
  refused reason refused before := by
    rw [answer_eq peer s c h]
    simp only [post, refused]
    rfl

/-! ### Forms -/

variable {data : String}

variable (lib) in
theorem imageForm_of_fault {fault : ImageFault} (h : ImageData.decode data = .error fault) :
    imageForm lib data = .error (.invalidImage (fault.message lib.decoderFault)) := by
  rw [imageForm, h]
  rfl

variable (lib) in
theorem imageForm_of_image {image : ImageData} (h : ImageData.decode data = .ok image) :
    imageForm lib data = (lib.mediaType image.mime).mapError .http >>= fun mime =>
      .ok (.form ⟨"file", "image", mime, image.bytes⟩) := by
  rw [imageForm, h]
  rfl

/-- An upload without a form makes no request. -/
theorem makesNone_upload (s : Settings) {e : ClientError} {message : String}
    (h : imageForm lib data = .error e) (transport : e.toServiceError = .transport message) :
    MakesNone ((s.service lib peer).uploadImage data) message := by
  intro before
  change (s.uploadImage lib peer data).run before = _
  rw [uploadImage, h, ← transport]
  rfl

end

end Settings

/-- Over HTTP a main call makes one request, to the path of its serialized method and with its
parameters, and comes to what the delivery says; so do preprocessing and the upload of an image of a
media type, at the paths that are configured, before the guide or the reference is taken from the
response. A call whose address or key the library refuses makes no request and fails, and so does
the upload of anything else. -/
theorem service_makes (lib : Library) (s : Settings) {σ : Type}
    (peer : HttpRequest → StateM σ Delivery) :
    (∀ step : MainStep, ∃ name, step.method.toJson = .str name ∧
      let r := s.request name (.json step.params.toJson)
      Addressed s name (.json step.params.toJson) r ∧
        Posts lib peer r ((s.service lib peer).dispatch step) .ok) ∧
    (∀ image preprocessor,
      let body := Body.json (.obj [("image", .str image), ("preprocessor", .str preprocessor)])
      let r := s.request s.preprocessPath body
      Addressed s (Settings.below s.preprocessPath) body r ∧
        Posts lib peer r ((s.service lib peer).preprocess image preprocessor)
          fun response => (parseGuide response).mapError ClientError.toServiceError) ∧
    (∀ data image mime, ImageData.decode data = .ok image → lib.mediaType image.mime = .ok mime →
      let body := Body.form ⟨"file", "image", mime, image.bytes⟩
      let r := s.request s.uploadPath body
      Addressed s (Settings.below s.uploadPath) body r ∧
        Posts lib peer r ((s.service lib peer).uploadImage data)
          fun response => (parseUpload response).mapError ClientError.toServiceError) ∧
    (∀ data fault, ImageData.decode data = .error fault →
      MakesNone ((s.service lib peer).uploadImage data)
        ("Invalid image data: " ++ fault.message lib.decoderFault)) ∧
    ∀ data image reason, ImageData.decode data = .ok image →
      lib.mediaType image.mime = .error reason →
      MakesNone ((s.service lib peer).uploadImage data) ("HTTP error: " ++ reason) := by
  refine ⟨fun step => ⟨step.method.name, rfl, ?_, ?_⟩, fun image preprocessor => ⟨?_, ?_⟩,
    fun data image mime read typed => ⟨?_, ?_⟩, fun data fault failed => ?_,
    fun data image reason read untyped => ?_⟩
  · have plain : Settings.below step.method.name = step.method.name := by
      cases step.method <;> decide
    have addressed := s.addressed_request step.method.name (.json step.params.toJson)
    rwa [plain] at addressed
  · exact Settings.posts_answer peer s (c := .main step) rfl
  · exact s.addressed_request _ _
  · exact Settings.posts_answer peer s (c := .preprocess image preprocessor) rfl
  · exact s.addressed_request _ _
  · have form := Settings.imageForm_of_image lib read
    rw [typed] at form
    exact Settings.posts_answer peer s (c := .upload data) form
  · exact Settings.makesNone_upload peer s (Settings.imageForm_of_fault lib failed) rfl
  · have form := Settings.imageForm_of_image lib read
    rw [untyped] at form
    exact Settings.makesNone_upload peer s form rfl

/-- A peer that keeps what it receives, and whose answers to forms break off. -/
theorem service_makes_kept :
    let lib := Rehearsal.library
    let s : Settings := { baseUrl := "http://gen.example/api/", apiKey := some "key" }
    let refusing : Settings := { s with apiKey := some "a\nb" }
    let peer (r : HttpRequest) : StateM (List HttpRequest) Delivery := do
      modify (· ++ [r])
      pure (.answered (match r.body with
        | .json _ => ⟨200, none, .ok "null".toUTF8⟩
        | .form _ => ⟨503, none, .error "reset"⟩))
    ((s.service lib peer).dispatch ⟨.upscale, .empty⟩).run [] =
        (.ok .null,
          [⟨"POST", "http://gen.example/api/upscale", some "key", 120, .json (.obj [])⟩]) ∧
      ((s.service lib peer).uploadImage "data:Image/PNG;base64,AAAA").run [] =
        (.error (.status 503 ""), [⟨"POST", "http://gen.example/api/upload", some "key", 120,
          .form ⟨"file", "image", "image/png", [0, 0, 0]⟩⟩]) ∧
      ((s.service lib peer).uploadImage "***").run [] =
        (.error (.transport "Invalid image data: Invalid base64: Invalid symbol"), []) ∧
      ((s.service lib peer).uploadImage "data:a b/c;base64,AAAA").run [] =
        (.error (.transport "HTTP error: builder error"), []) ∧
      ((refusing.service lib peer).dispatch ⟨.upscale, .empty⟩).run [] =
        (.error (.transport "HTTP error: builder error"), []) := by
  intro lib s refusing peer
  obtain ⟨calls, -, uploads, faults, types⟩ := service_makes lib s peer
  have address (path : String) (h : path ∈ ["upscale", "upload"]) (body : Body) :
      s.request path body = ⟨"POST", "http://gen.example/api/" ++ path, some "key", 120, body⟩ := by
    have endpoint : s.endpoint path = "http://gen.example/api/" ++ path := by
      revert path
      decide +kernel
    rw [Settings.request, endpoint]
  refine ⟨?_, ?_, ?_, ?_, ?_⟩
  · obtain ⟨name, named, -, posts⟩ := calls ⟨.upscale, .empty⟩
    cases named
    change Posts lib peer (s.request "upscale" (.json (.obj []))) _ _ at posts
    rw [address "upscale" (by decide)] at posts
    have read : Json.parse? "null" = some .null := by cbv
    rw [posts.run_eq (by decide +kernel) rfl]
    simp only [Delivery.json, Response.json, ofBytes?_toUTF8, read]
    rfl
  · obtain ⟨-, posts⟩ := uploads "data:Image/PNG;base64,AAAA" ⟨[0, 0, 0], "Image/PNG"⟩ "image/png"
      (by rfl) (by rfl)
    change Posts lib peer (s.request "upload" _) _ _ at posts
    rw [address "upload" (by decide)] at posts
    rw [posts.run_eq (by decide +kernel) rfl]
    rfl
  · exact faults "***" (.badBase64 "***") (by rfl) []
  · exact types "data:a b/c;base64,AAAA" ⟨[0, 0, 0], "a b/c"⟩ "builder error" (by rfl) (by rfl) []
  · obtain ⟨name, named, -, posts⟩ := (service_makes lib refusing peer).1 ⟨.upscale, .empty⟩
    cases named
    exact posts.refused "builder error" (by decide +kernel) []

/-- A key with a line end cannot be sent, nor can a request be sent to a host that ends in a blank
or holds a brace, by another scheme, or with a file whose type is none. A connection that is lost
within the body has delivered a status. -/
theorem service_makes_none :
    (∀ s ∈ ([{ baseUrl := "http://gen.example", apiKey := some "a\nb" },
        { baseUrl := "http://gen.example " }, { baseUrl := "http://gen\x7bexample" },
        { baseUrl := "ftp://gen.example" }] : List Settings),
      (Web.Url.read? s.baseUrl).isSome = true ∧
        ∀ peer : HttpRequest → StateM (List HttpRequest) Delivery, ∃ message,
          ((s.service Rehearsal.library peer).dispatch ⟨.txt2img, .empty⟩).run [] =
            (.error (.transport message), [])) ∧
    (∀ peer : HttpRequest → StateM (List HttpRequest) Delivery, ∃ message,
      ((({} : Settings).service Rehearsal.library peer).uploadImage
          "data:a b/c;base64,AAAA").run [] =
        (.error (.transport message), [])) ∧
    let peer (_ : HttpRequest) : StateM Unit Delivery :=
      pure (.answered ⟨200, none, .error "reset"⟩)
    ((({} : Settings).service Rehearsal.library peer).dispatch ⟨.txt2img, .empty⟩).run () =
      (.error (.invalidResponse "Failed to parse response: reset"), ()) := by
  refine ⟨fun s listed => ?_, fun peer => ?_, ?_⟩
  · have refused : (Web.Url.read? s.baseUrl).isSome = true ∧
        (Rehearsal.library.refusal? (s.endpoint "txt2img") s.apiKey).isSome = true := by
      revert s
      decide +kernel
    obtain ⟨reason, refusal⟩ := Option.isSome_iff_exists.1 refused.2
    refine ⟨refused.1, fun peer => ⟨"HTTP error: " ++ reason, ?_⟩⟩
    generalize Rehearsal.library = lib at refusal ⊢
    exact (Settings.posts_answer peer s (c := .main ⟨.txt2img, .empty⟩) rfl).refused _ refusal []
  · have form : Settings.imageForm Rehearsal.library "data:a b/c;base64,AAAA" =
        .error (.http "builder error") := by
      rfl
    exact ⟨_, Settings.makesNone_upload peer {} form rfl []⟩
  · intro peer
    exact (Settings.posts_answer peer {} (c := .main ⟨.txt2img, .empty⟩) rfl).run_eq
      (by decide +kernel) rfl

end ImageGraph.Client
