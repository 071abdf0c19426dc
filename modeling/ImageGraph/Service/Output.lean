import ImageGraph.Json.Printer
import ImageGraph.Service.Basic

/-!
What a main call produced, read from its response. The image stands at the top of the response or
first in a list; an error in the response wins over any image.
-/

namespace ImageGraph

structure Output where
  imageUrl : String
  imageId : Option String
  seed : Option Int64
  prompt : Option String
  nsfw : Option Bool
  deriving Repr, DecidableEq

namespace Output

open Json

/-- What an error in a response says: its text, its message, or else the whole of it. -/
def errorText (error : Json) : String :=
  match error with
  | .str s => s
  | error => ((error.field? "message").bind string?).getD error.render

def seedAt? (j : Json) : Option Int64 :=
  (j.field? "seed").bind int64?

/-- A truth value, or the first of a list of them. -/
def flag? : Json → Option Bool
  | .bool b => some b
  | .arr items => items.head?.bind bool?
  | _ => none

def nsfwAt? (j : Json) : Option Bool :=
  j.firstOf? flag? ["nsfw", "hasNsfwConcepts"]

/-- The value that describes the image: the first item of `images` or `data`, or the response. -/
def imagePart (response : Json) : Json :=
  ((response.firstOf? array? ["images", "data"]).bind List.head?).getD response

def imageUrl? : Json → Option String
  | .str url => some url
  | image => textAt? ["imageUrl", "url", "image"] image

def ofResponse (response : Json) : Except ServiceError Output :=
  match (response.field? "error").filter fun e => !e.isNull with
  | some error => .error (.remote (errorText error))
  | none =>
    let image := imagePart response
    match imageUrl? image with
    | none => .error (.invalidResponse "response contains no image")
    | some url => .ok {
        imageUrl := url
        imageId := textAt? ["imageId", "id"] image <|> textAt? ["imageId", "id"] response
        seed := seedAt? image <|> seedAt? response
        prompt := textAt? ["prompt"] response <|> textAt? ["prompt"] image
        nsfw := nsfwAt? image <|> nsfwAt? response }

def toJson (o : Output) : Json :=
  .obj [("imageId", ofOption .str o.imageId), ("imageUrl", .str o.imageUrl),
    ("nsfw", ofOption .bool o.nsfw), ("prompt", ofOption .str o.prompt),
    ("seed", ofOption ofInt64 o.seed)]

def ofJson? (j : Json) : Option Output := do
  let field ← j.record? ["imageUrl", "imageId", "seed", "prompt", "nsfw"]
  pure {
    imageUrl := ← (field "imageUrl").required string?
    imageId := ← (field "imageId").optional string?
    seed := ← (field "seed").optional int64?
    prompt := ← (field "prompt").optional string?
    nsfw := ← (field "nsfw").optional bool? }

end Output

end ImageGraph
