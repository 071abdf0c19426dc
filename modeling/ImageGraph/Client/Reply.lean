import ImageGraph.Client.Error

/-!
What the client takes from the answers to uploads and preprocessing calls.
-/

namespace ImageGraph.Client

/-- The reference of an upload stands at the top or in an object under `data`. -/
def parseUpload (response : Json) : Except ClientError UploadedImage :=
  let body := ((response.field? "data").filter Json.isObject).getD response
  match body.textAt? ["id", "imageId"], body.textAt? ["url", "imageUrl"] with
  | none, _ => .error (.decode "upload response has no id")
  | some _, none => .error (.decode "upload response has no url")
  | some id, some url => .ok ⟨id, url⟩

/-- The URL of a guide is the response itself or stands under one of several keys. -/
def parseGuide : Json → Except ClientError String
  | .str url => .ok url
  | response =>
    match response.textAt? ["guideUrl", "imageUrl", "url", "image"] with
    | some url => .ok url
    | none => .error (.decode "preprocess response has no image")

end ImageGraph.Client
