import ImageGraph.Json.Fields

/-!
What a host may tune. Every setting has a default, and a settings document names only what differs.
-/

namespace ImageGraph

/-- What happens to a trigger for an output node while an execution for it is in progress. -/
inductive Overlap where
  | allow
  | reject
  deriving Repr, DecidableEq

def Overlap.all : List Overlap := [allow, reject]

def Overlap.name : Overlap → String
  | allow => "allow"
  | reject => "reject"

structure Settings where
  defaultModel : String := "flux-dev"
  defaultI2iStrength : Float := 0.8
  defaultControlnetStrength : Float := 1.0
  defaultLoraWeight : Float := 1.0
  /-- A trimmed negative prompt with fewer characters is left out. -/
  minNegativePromptLen : UInt64 := 2
  /-- In degrees. -/
  defaultReangleAngle : Float := 15.0
  defaultReangleDirection : String := "up"
  defaultRemixWeight : Float := 0.75
  defaultUpscaleFactor : Float := 2.0
  defaultUpscaleModel : String := "esrgan"
  overlapPolicy : Overlap := .allow

namespace Settings

def fieldNames : List String :=
  ["defaultModel", "defaultI2iStrength", "defaultControlnetStrength", "defaultLoraWeight",
    "minNegativePromptLen", "defaultReangleAngle", "defaultReangleDirection",
    "defaultRemixWeight", "defaultUpscaleFactor", "defaultUpscaleModel", "overlapPolicy"]

open Document in
def ofDocument? (d : Document) : Option Settings := do
  let field ← d.record? fieldNames
  let default : Settings := {}
  pure {
    defaultModel := ← fieldOr default.defaultModel string? (field "defaultModel")
    defaultI2iStrength :=
      ← fieldOr default.defaultI2iStrength float? (field "defaultI2iStrength")
    defaultControlnetStrength :=
      ← fieldOr default.defaultControlnetStrength float? (field "defaultControlnetStrength")
    defaultLoraWeight := ← fieldOr default.defaultLoraWeight float? (field "defaultLoraWeight")
    minNegativePromptLen :=
      ← fieldOr default.minNegativePromptLen uint64? (field "minNegativePromptLen")
    defaultReangleAngle :=
      ← fieldOr default.defaultReangleAngle float? (field "defaultReangleAngle")
    defaultReangleDirection :=
      ← fieldOr default.defaultReangleDirection string? (field "defaultReangleDirection")
    defaultRemixWeight :=
      ← fieldOr default.defaultRemixWeight float? (field "defaultRemixWeight")
    defaultUpscaleFactor :=
      ← fieldOr default.defaultUpscaleFactor float? (field "defaultUpscaleFactor")
    defaultUpscaleModel :=
      ← fieldOr default.defaultUpscaleModel string? (field "defaultUpscaleModel")
    overlapPolicy :=
      ← fieldOr default.overlapPolicy (choice? Overlap.all Overlap.name) (field "overlapPolicy") }

/-- The settings that a text describes. -/
def parse? (text : String) : Option Settings :=
  (Document.parse? text).bind ofDocument?

def ofJson? (j : Json) : Option Settings :=
  ofDocument? j.toDocument

open Json in
def toJson (s : Settings) : Json :=
  .obj [
    ("defaultControlnetStrength", ofFloat s.defaultControlnetStrength),
    ("defaultI2iStrength", ofFloat s.defaultI2iStrength),
    ("defaultLoraWeight", ofFloat s.defaultLoraWeight),
    ("defaultModel", .str s.defaultModel),
    ("defaultReangleAngle", ofFloat s.defaultReangleAngle),
    ("defaultReangleDirection", .str s.defaultReangleDirection),
    ("defaultRemixWeight", ofFloat s.defaultRemixWeight),
    ("defaultUpscaleFactor", ofFloat s.defaultUpscaleFactor),
    ("defaultUpscaleModel", .str s.defaultUpscaleModel),
    ("minNegativePromptLen", ofUInt64 s.minNegativePromptLen),
    ("overlapPolicy", .str s.overlapPolicy.name)]

end Settings

end ImageGraph
