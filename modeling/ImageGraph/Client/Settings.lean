import ImageGraph.Client.Error
import ImageGraph.Decimal.Reading
import ImageGraph.Text.Blank

/-!
Connection settings: read from a file, then overridden by variables of the environment.
-/

namespace ImageGraph.Client

structure Settings where
  /-- The root of the service; method names are appended to it. -/
  baseUrl : String := "http://127.0.0.1:8188/api"
  /-- Sent as a bearer token. -/
  apiKey : Option String := none
  timeoutSecs : UInt64 := 120
  uploadPath : String := "upload"
  preprocessPath : String := "preprocess"
  deriving Repr, DecidableEq

/-- Why settings could not be loaded. -/
inductive LoadError where
  | notText
  /-- The text is no JSON or does not have the shape of settings. -/
  | notSettings
  | unusable (fault : SettingsFault)
  deriving Repr, DecidableEq

namespace Settings

def fieldNames : List String :=
  ["baseUrl", "apiKey", "timeoutSecs", "uploadPath", "preprocessPath"]

open Document in
def ofDocument? (d : Document) : Option Settings := do
  let field ← d.record? fieldNames
  let default : Settings := {}
  pure {
    baseUrl := ← fieldOr default.baseUrl string? (field "baseUrl")
    apiKey := ← fieldOr default.apiKey (orNull? string?) (field "apiKey")
    timeoutSecs := ← fieldOr default.timeoutSecs uint64? (field "timeoutSecs")
    uploadPath := ← fieldOr default.uploadPath string? (field "uploadPath")
    preprocessPath := ← fieldOr default.preprocessPath string? (field "preprocessPath") }

def ofJson? (j : Json) : Option Settings :=
  ofDocument? j.toDocument

open Json in
def toJson (s : Settings) : Json :=
  .obj [("apiKey", ofOption .str s.apiKey), ("baseUrl", .str s.baseUrl),
    ("preprocessPath", .str s.preprocessPath), ("timeoutSecs", ofUInt64 s.timeoutSecs),
    ("uploadPath", .str s.uploadPath)]

/-- Settings need a base URL that is not blank and a timeout that is not zero. -/
def validate (s : Settings) : Except SettingsFault Settings :=
  if Text.allBlank s.baseUrl then .error .blankBaseUrl
  else if s.timeoutSecs = 0 then .error .zeroTimeout
  else .ok s

/-- The settings in a file; a file that does not exist stands for the defaults. -/
def load (contents : Option ByteArray) : Except LoadError Settings :=
  match contents with
  | none => .ok {}
  | some bytes =>
    match String.fromUTF8? bytes with
    | none => .error .notText
    | some text =>
      match (Document.parse? text).bind ofDocument? with
      | none => .error .notSettings
      | some s => s.validate.mapError .unusable

/-- A number of seconds: digits, perhaps after a plus sign, with blanks around them. -/
def seconds? (text : String) : Option UInt64 :=
  let digits := match (Text.trim text).toList with
    | '+' :: rest => rest
    | s => s
  if digits ≠ [] ∧ digits.all Char.isDigit ∧ Decimal.value digits < UInt64.size then
    some (.ofNat (Decimal.value digits))
  else none

/-- Applies the variables that are set; an empty key means no key. -/
def withOverrides (s : Settings) (lookup : String → Option String) :
    Except SettingsFault Settings := do
  let s := match lookup "GENERATION_API_URL" with
    | some url => { s with baseUrl := url }
    | none => s
  let s := match lookup "GENERATION_API_KEY" with
    | some key => { s with apiKey := if key = "" then none else some key }
    | none => s
  let s ← match lookup "GENERATION_TIMEOUT_SECS" with
    | some text =>
      match seconds? text with
      | some n => .ok { s with timeoutSecs := n }
      | none => .error (.badTimeout text)
    | none => .ok s
  s.validate

end Settings

end ImageGraph.Client
