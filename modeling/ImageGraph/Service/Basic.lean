import ImageGraph.Request.Basic

/-!
The remote service: the calls it takes, what it answers and how it fails.
-/

namespace ImageGraph

inductive ServiceError where
  /-- No response came. -/
  | transport (message : String)
  /-- The response has a status other than success. -/
  | status (code : UInt16) (body : String)
  /-- The response could not be understood. -/
  | invalidResponse (message : String)
  /-- The response reports an error. -/
  | remote (message : String)
  deriving Repr, DecidableEq

def ServiceError.message : ServiceError → String
  | transport message => "Transport error: " ++ message
  | status code body => "Service returned " ++ toString code.toNat ++ ": " ++ body
  | invalidResponse message => "Invalid response: " ++ message
  | remote message => message

/-- The lasting reference that an upload returns. -/
structure UploadedImage where
  id : String
  url : String
  deriving Repr, DecidableEq

inductive ServiceCall where
  | upload (data : String)
  /-- Makes a guide from an image. -/
  | preprocess (image preprocessor : String)
  | main (step : MainStep)

/-- What a call returns when it succeeds: an upload its reference, preprocessing the URL of the
guide, a main call the response as it came. -/
abbrev ServiceCall.Result : ServiceCall → Type
  | upload _ => UploadedImage
  | preprocess _ _ => String
  | main _ => Json

abbrev ServiceCall.Answer (c : ServiceCall) : Type :=
  Except ServiceError c.Result

open Json

def UploadedImage.toJson (u : UploadedImage) : Json :=
  .obj [("id", .str u.id), ("url", .str u.url)]

def UploadedImage.ofJson? (j : Json) : Option UploadedImage := do
  let field ← j.record? ["id", "url"]
  pure {
    id := ← (field "id").required string?
    url := ← (field "url").required string? }

end ImageGraph
