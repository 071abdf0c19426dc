import ImageGraph.Flow

/-!
Requests: any number of preprocessing steps for control images and exactly one main call.
-/

namespace ImageGraph

/-- The remote method of a main call. -/
inductive Method where
  | txt2img
  | img2img
  | upscale
  | removeBackground
  | inpaint
  | outpaint
  | styleTransfer
  | recombine
  deriving Repr, DecidableEq

/-- One image that conditions a text-to-image call. -/
structure ControlEntry where
  /-- The URL of the guide image. -/
  image : String
  strength : Float
  model : String
  control : String

/-- A control image whose guide has to be made remotely first. -/
structure PreprocessStep where
  nodeId : NodeId
  control : Control
  /-- The reference of the uploaded image. -/
  sourceImage : String
  preprocessor : String
  strength : Float
  model : String

structure MainStep where
  method : Method
  params : Json.Object

structure Request where
  flow : Flow
  preprocess : List PreprocessStep
  main : MainStep

/-- An adapter of the model with its weight. -/
structure Lora where
  id : String
  weight : Float

namespace Method

def all : List Method :=
  [txt2img, img2img, upscale, removeBackground, inpaint, outpaint, styleTransfer, recombine]

def name : Method → String
  | txt2img => "txt2img"
  | img2img => "img2img"
  | upscale => "upscale"
  | removeBackground => "removeBackground"
  | inpaint => "inpaint"
  | outpaint => "outpaint"
  | styleTransfer => "styleTransfer"
  | recombine => "recombine"

end Method

def ControlEntry.toJson (e : ControlEntry) : Json :=
  .obj [("image", .str e.image), ("model", .str e.model), ("strength", .ofFloat e.strength),
    ("type", .str e.control)]

/-- The entry for a step whose guide is at `guideUrl`. -/
def PreprocessStep.entry (step : PreprocessStep) (guideUrl : String) : ControlEntry where
  image := guideUrl
  strength := step.strength
  model := step.model
  control := step.control.name

/-- Appends an entry to the list under `controlnet`; anything else under that key gives way to a
list. -/
def MainStep.addControl (m : MainStep) (e : ControlEntry) : MainStep :=
  let entries := (m.params.get? "controlnet").bind Json.array?
  { m with params := m.params.insert "controlnet" (.arr (entries.getD [] ++ [e.toJson])) }

end ImageGraph
