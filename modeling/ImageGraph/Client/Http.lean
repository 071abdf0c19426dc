import ImageGraph.Client.ImageData
import ImageGraph.Client.Reply
import ImageGraph.Client.Settings
import ImageGraph.Service.Dispatch

/-!
The service over HTTP. Each call is one POST request: a main call and preprocessing send JSON, an
upload sends a form with one file. A status other than success is an error, whatever the body says.
What is left to libraries is a parameter: which addresses, keys and media types can be sent, how
bytes are read as text, and how faults are worded.
-/

namespace ImageGraph

/-- Reads JSON from bytes, which have to be UTF-8. -/
def Json.ofBytes? (bytes : ByteArray) : Option Json :=
  (String.fromUTF8? bytes).bind parse?

namespace Client

/-- The one file of a form. -/
structure FormFile where
  field : String
  name : String
  mime : String
  bytes : List UInt8
  deriving Repr, DecidableEq

inductive Body where
  | json (value : Json)
  | form (file : FormFile)

/-- A request as it is put together. -/
structure HttpRequest where
  verb : String
  endpoint : String
  bearer : Option String
  timeoutSecs : UInt64
  body : Body

/-- What a peer answers. -/
structure Response where
  status : UInt16
  contentType : Option String
  /-- The body, or why it did not come to its end. -/
  body : Except String ByteArray

/-- What comes of sending a request. -/
inductive Delivery where
  | unreachable (reason : String)
  /-- It was received, and no response came. -/
  | dropped (reason : String)
  | answered (response : Response)

/-- What the client leaves to libraries. -/
structure Library where
  /-- What the decoder of base64 says of a payload that it refuses. -/
  decoderFault : String → String
  /-- A media type as it is sent, or why the text is none. -/
  mediaType : String → Except String String
  /-- Why no request is sent to an address with a key, if none is. -/
  refusal? (endpoint : String) (bearer : Option String) : Option String
  /-- The body of a response of some type as text. -/
  text (contentType : Option String) (body : ByteArray) : String
  /-- What is said of a body that is no JSON. -/
  jsonFault : ByteArray → String

variable (lib : Library)

/-- The JSON of a successful response. -/
def Response.json (r : Response) : Except ClientError Json :=
  if 200 ≤ r.status ∧ r.status < 300 then
    let unread (reason : String) : Except ClientError Json :=
      .error (.decode ("Failed to parse response: " ++ reason))
    match r.body with
    | .error reason => unread reason
    | .ok bytes =>
      match Json.ofBytes? bytes with
      | some value => .ok value
      | none => unread (lib.jsonFault bytes)
  else
    -- An error has the text of its body as far as one can be had.
    match r.body with
    | .error _ => .error (.status r.status "")
    | .ok bytes => .error (.status r.status (lib.text r.contentType bytes))

namespace Delivery

/-- The request as far as it was received. -/
def received (r : HttpRequest) : Delivery → Option HttpRequest
  | unreachable _ => none
  | dropped _ | answered _ => some r

def json : Delivery → Except ClientError Json
  | unreachable reason | dropped reason => .error (.http reason)
  | answered response => response.json lib

end Delivery

namespace Settings

/-- The address of a path below the base URL, with one slash between the two. -/
def endpoint (s : Settings) (path : String) : String :=
  let base := (s.baseUrl.toList.reverse.dropWhile (· = '/')).reverse
  String.ofList (base ++ '/' :: path.toList.dropWhile (· = '/'))

/-- The request to an endpoint. -/
def request (s : Settings) (path : String) (body : Body) : HttpRequest :=
  ⟨"POST", s.endpoint path, s.apiKey, s.timeoutSecs, body⟩

/-- The form for an image. -/
def imageForm (data : String) : Except ClientError Body := do
  let image ← (ImageData.decode data).mapError fun fault =>
    .invalidImage (fault.message lib.decoderFault)
  let mime ← (lib.mediaType image.mime).mapError .http
  pure (.form ⟨"file", "image", mime, image.bytes⟩)

section

variable {m : Type → Type} [Monad m] (send : HttpRequest → m Delivery)

/-- Sends one request, unless the library refuses it, and reads the JSON of the response. -/
def post (s : Settings) (path : String) (body : Body) : m (Except ClientError Json) :=
  let r := s.request path body
  match lib.refusal? r.endpoint r.bearer with
  | some reason => pure (.error (.http reason))
  | none => do
    let delivery ← send r
    pure (delivery.json lib)

/-- Makes a call of a main method. The response is returned as it came. -/
def call (s : Settings) (method : Method) (params : Json.Object) :
    m (Except ServiceError Json) := do
  let response ← s.post lib send method.name (.json params.toJson)
  pure (response.mapError ClientError.toServiceError)

def preprocess (s : Settings) (image preprocessor : String) : m (Except ServiceError String) := do
  let body := Json.obj [("image", .str image), ("preprocessor", .str preprocessor)]
  let response ← s.post lib send s.preprocessPath (.json body)
  pure ((response >>= parseGuide).mapError ClientError.toServiceError)

def uploadImage (s : Settings) (data : String) : m (Except ServiceError UploadedImage) :=
  match imageForm lib data with
  | .error e => pure (.error e.toServiceError)
  | .ok form => do
    let response ← s.post lib send s.uploadPath form
    pure ((response >>= parseUpload).mapError ClientError.toServiceError)

/-- The service as it is called with these settings. -/
def service (s : Settings) : Service m where
  textToImage := s.call lib send .txt2img
  imageToImage := s.call lib send .img2img
  upscale := s.call lib send .upscale
  removeBackground := s.call lib send .removeBackground
  inpaint := s.call lib send .inpaint
  outpaint := s.call lib send .outpaint
  styleTransfer := s.call lib send .styleTransfer
  recombine := s.call lib send .recombine
  preprocess := s.preprocess lib send
  uploadImage := s.uploadImage lib send

end

end Settings

/-- The request that reached the service, if one did, and what the call came to. -/
structure Exchange (c : ServiceCall) where
  received : Option HttpRequest
  answer : c.Answer

/-- Makes a call over a network. -/
def Settings.exchange (s : Settings) (network : HttpRequest → Delivery) (c : ServiceCall) :
    Exchange c :=
  let send (r : HttpRequest) : StateM (Option HttpRequest) Delivery := do
    let delivery := network r
    set (delivery.received r)
    pure delivery
  let (answer, received) := ((s.service lib send).answer c).run none
  ⟨received, answer⟩

end Client

end ImageGraph
