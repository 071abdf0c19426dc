import ImageGraph.Request.Error
import ImageGraph.Request.Lineage

/-!
Requests that generate from prompts: text-to-image with control images, and image-to-image.
-/

namespace ImageGraph

/-- What a control-net node contributes: an entry when its guide exists, a step when its guide can
be made, and otherwise nothing. -/
inductive Contribution where
  | entry (e : ControlEntry)
  | step (s : PreprocessStep)
  | nothing

namespace Contribution

def entry? : Contribution → Option ControlEntry
  | entry e => some e
  | _ => none

def step? : Contribution → Option PreprocessStep
  | step s => some s
  | _ => none

end Contribution

namespace Lineage

/-- The contribution of a node of the given control kind. -/
def contribution (l : Lineage) (n : Node) (c : Control) : Except CompileError Contribution :=
  match c.model?, c.preprocessor? with
  | some model, some preprocessor =>
    let strength := (n.number? "strength").getD l.settings.defaultControlnetStrength
    match n.text? "guideUrl", n.image? with
    | some guide, _ => .ok (.entry ⟨guide, strength, model, c.name⟩)
    | none, some source => .ok (.step ⟨n.id, c, source, preprocessor, strength, model⟩)
    | none, none => .ok .nothing
  | _, _ => .error (.unsupportedSubtype n.id c.name)

/-- The control-net nodes among the ancestors, seed images apart. -/
def controls (l : Lineage) : List (Node × Control) :=
  l.ancestors.filterMap fun a =>
    match a.role with
    | .controlNet .lights => none
    | .controlNet c => some (a.node, c)
    | _ => none

/-- The first seed image, with the strength of its node. -/
def seedImage? (l : Lineage) : Option (String × Float) :=
  (l.withRole (.controlNet .lights)).findSome? fun a =>
    a.node.image?.map fun image =>
      (image, (a.node.number? "strength").getD l.settings.defaultI2iStrength)

/-- Adds the image that a call starts from. -/
def withImage (params : Json.Object) (image : String) (strength : Float) : Json.Object :=
  (params.insert "image" (.str image)).insert "strength" (.ofFloat strength)

/-- A seed image makes the call an image-to-image call; the flow stays the same. -/
def textToImage (l : Lineage) : Except CompileError Request := do
  let contributions ← l.controls.mapM fun (n, c) => l.contribution n c
  let entries := contributions.filterMap Contribution.entry?
  let params := l.generativeParams.insertSome "controlnet"
    (Json.nonempty? (entries.map ControlEntry.toJson))
  let main := match l.seedImage? with
    | some (image, strength) => ⟨.img2img, withImage params image strength⟩
    | none => ⟨.txt2img, params⟩
  pure ⟨.textToImage, contributions.filterMap Contribution.step?, main⟩

/-- The strength that the first image-to-image node with one asks for. -/
def imageStrength (l : Lineage) : Float :=
  ((l.withRole .imageToImage).findSome? fun a =>
    a.node.number? "creativity" <|> a.node.number? "strength").getD l.settings.defaultI2iStrength

def imageToImage (l : Lineage) : Except CompileError Request :=
  match l.baseImage? with
  | none => .error (.missingBaseImage Flow.imageToImage.name)
  | some image =>
    .ok ⟨.imageToImage, [], ⟨.img2img, withImage l.generativeParams image l.imageStrength⟩⟩

end Lineage

end ImageGraph
