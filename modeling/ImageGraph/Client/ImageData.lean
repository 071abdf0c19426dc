import ImageGraph.Base64
import ImageGraph.Client.Error
import ImageGraph.Text.Affix
import ImageGraph.Text.Blank

/-!
Images as text: base64, alone or as a data URL.
-/

namespace ImageGraph.Client

structure ImageData where
  bytes : List UInt8
  mime : String
  deriving Repr, DecidableEq

namespace ImageData

/-- The type of an image that does not name one. -/
def defaultMime : String := "image/png"

/-- Removes an ending as often as it stands there, for at most as many times as there are
characters. -/
def dropEndings (ending : List Char) : Nat → List Char → List Char
  | 0, reversed => reversed
  | n + 1, reversed =>
    match Text.dropStart? ending reversed with
    | some rest => dropEndings ending n rest
    | none => reversed

/-- A text without the endings `;base64`. -/
def withoutEncoding (header : String) : String :=
  let reversed := header.toList.reverse
  String.ofList (dropEndings ";base64".toList.reverse reversed.length reversed).reverse

/-- The type and the payload of a text. -/
def split (data : String) : Except ImageFault (String × String) :=
  match Text.afterStart? "data:" data with
  | none => .ok (defaultMime, data)
  | some url =>
    match Text.cut? ',' url with
    | none => .error .noPayload
    | some (header, payload) =>
      if Text.endsWith ";base64" header then
        let mime := withoutEncoding header
        .ok (if mime = "" then defaultMime else mime, payload)
      else .error .notBase64Url

def decode (data : String) : Except ImageFault ImageData :=
  match split data with
  | .error e => .error e
  | .ok (mime, payload) =>
    match Base64.decode? (Text.trim payload).toList with
    | none => .error (.badBase64 (Text.trim payload))
    | some [] => .error .empty
    | some bytes => .ok ⟨bytes, mime⟩

end ImageData

end ImageGraph.Client
