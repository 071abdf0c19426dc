import ImageGraph.Decimal.Layout
import ImageGraph.Request.Error
import ImageGraph.Request.Lineage

/-!
Requests that transform given images: the tools, which take one image, and the kontext transforms,
which take a prompt and one or more images.
-/

namespace ImageGraph

namespace Lineage

def requireBase (l : Lineage) (flow : String) : Except CompileError String :=
  match l.baseImage? with
  | some image => .ok image
  | none => .error (.missingBaseImage flow)

/-- A margin in pixels: rounded to the nearest whole number, a half upwards, and kept within 32
bits. What is not positive is zero. -/
def pixels (x : Float) : UInt32 :=
  if 0.0 < x then x.round.toUInt32 else 0

def withMargin (n : Node) (params : Json.Object) (side : String) : Json.Object :=
  params.insert side (.ofNat (pixels ((n.number? side).getD 0.0)).toNat)

/-- The prompt of a tool is optional. -/
def withToolPrompt (l : Lineage) (n : Node) (params : Json.Object) : Json.Object :=
  params.insertSome "prompt" ((l.promptFor? n).map .str)

/-- The mask of the tool node, or else the first of a candidate. -/
def maskFor? (l : Lineage) (n : Node) : Option String :=
  n.mask? <|> l.candidates.findSome? fun a => a.node.mask?

/-- The call of a tool on the image in `params`. -/
def toolStep (l : Lineage) (n : Node) (params : Json.Object) : Tool → Except CompileError MainStep
  | .upscale =>
    let scale := (n.number? "scale").getD l.settings.defaultUpscaleFactor
    let model := (n.text? "upscaleModel").getD l.settings.defaultUpscaleModel
    .ok ⟨.upscale, params.insert "scale" (.ofFloat scale)
      |>.insert "upscaleModel" (.str model)
      |>.insert "faceEnhance" (.bool ((n.flag? "faceEnhance").getD false))⟩
  | .removeBackground => .ok ⟨.removeBackground, params⟩
  | .inpaint =>
    match l.maskFor? n with
    | none => .error .missingMask
    | some mask => .ok ⟨.inpaint, l.withToolPrompt n (params.insert "mask" (.str mask))⟩
  | .outpaint =>
    let margins := ["top", "right", "bottom", "left"].foldl (withMargin n) params
    .ok ⟨.outpaint, l.withToolPrompt n margins⟩

def tool (l : Lineage) : Except CompileError Request :=
  match firstTool? l.ancestors with
  | none => .error (.missingBaseImage Flow.tool.name)
  | some (a, t) => do
    let image ← l.requireBase t.name
    let main ← l.toolStep a.node (Json.Object.empty.insert "image" (.str image)) t
    pure ⟨.tool, [], main⟩

/-- The prompt of a transform: connected, else its own, else the given one. -/
def kontextPrompt (l : Lineage) (n : Node) (fallback : String) : Json :=
  .str ((l.promptFor? n).getD fallback)

/-- The first candidate image with a tag; case and outer blanks do not matter. -/
def taggedImage (l : Lineage) (tag : String) : Except CompileError String :=
  let tagged := l.candidates.filter fun a =>
    (a.node.text? "tag").any fun t => Text.lower (Text.trim t) == Text.lower tag
  match tagged.findSome? fun a => a.node.image? with
  | some image => .ok image
  | none => .error (.missingTaggedImage tag)

/-- The images to blend, each with its weight. -/
def adapters (l : Lineage) : List Json :=
  l.candidates.filterMap fun a =>
    a.node.image?.map fun image =>
      let weight := (a.node.number? "weight").getD l.settings.defaultRemixWeight
      .obj [("image", .str image), ("weight", .ofFloat weight)]

def rotation (angle : Float) (direction : String) : String :=
  "Rotate the camera " ++ Decimal.Layout.prose.text angle ++ " degrees " ++ direction ++
    " while keeping the subject unchanged"

/-- The call of a transform. -/
def kontextStep (l : Lineage) (n : Node) : Kontext → Except CompileError MainStep
  | .reference => do
    let image ← l.requireBase Kontext.reference.name
    let prompt := l.kontextPrompt n "Recreate the scene in the style of the reference image"
    pure ⟨.styleTransfer, Json.Object.empty.insert "image" (.str image)
      |>.insert "prompt" prompt⟩
  | .rescene => do
    let scene ← l.taggedImage "SCENE"
    let subject ← l.taggedImage "OBJECT"
    let prompt := l.kontextPrompt n
      "Place the object into the scene, matching its lighting and perspective"
    pure ⟨.recombine, Json.Object.empty.insert "sceneImage" (.str scene)
      |>.insert "objectImage" (.str subject)
      |>.insert "prompt" prompt⟩
  | .reangle => do
    let image ← l.requireBase Kontext.reangle.name
    let angle := (n.number? "angle").getD l.settings.defaultReangleAngle
    let direction := (n.text? "direction").getD l.settings.defaultReangleDirection
    pure ⟨.styleTransfer, Json.Object.empty.insert "image" (.str image)
      |>.insert "angle" (.ofFloat angle)
      |>.insert "direction" (.str direction)
      |>.insert "prompt" (l.kontextPrompt n (rotation angle direction))⟩
  | .remix =>
    match Json.nonempty? l.adapters with
    | none => .error (.missingImages Kontext.remix.name)
    | some adapters =>
      let prompt := l.kontextPrompt n
        "Blend the input images into a single coherent composition"
      .ok ⟨.recombine, Json.Object.empty.insert "ipAdapters" adapters
        |>.insert "prompt" prompt⟩

def kontext (l : Lineage) : Except CompileError Request :=
  match firstKontext? l.ancestors with
  | none => .error (.missingImages Flow.kontext.name)
  | some (a, k) => (l.kontextStep a.node k).map fun main => ⟨.kontext, [], main⟩

end Lineage

end ImageGraph
