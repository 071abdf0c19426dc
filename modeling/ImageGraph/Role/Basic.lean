import ImageGraph.Json.Fields

/-!
What a node is for. Downstream of classification nobody looks at a type string again.
-/

namespace ImageGraph

inductive Polarity where
  | positive
  | negative
  deriving Repr, DecidableEq

/-- What a control image conditions on. -/
inductive Control where
  | pose
  | depth
  | canny
  | lineart
  | scribble
  | segmentation
  /-- A seed image rather than a condition. -/
  | lights
  | other (name : String)
  deriving Repr, DecidableEq

/-- A tool turns one image into one image. -/
inductive Tool where
  | upscale
  | removeBackground
  | inpaint
  | outpaint
  deriving Repr, DecidableEq

/-- A transform that works from several images and a prompt. -/
inductive Kontext where
  | reference
  | rescene
  | reangle
  | remix
  deriving Repr, DecidableEq

inductive Role where
  | engine
  | lora
  | prompt (polarity : Polarity)
  | controlNet (control : Control)
  | tool (tool : Tool)
  | kontext (kontext : Kontext)
  /-- Plain image-to-image. -/
  | imageToImage
  | imageSource
  | output
  /-- A known family with a subtype that no request can be built for. -/
  | unsupported (type : String)
  | passThrough
  deriving Repr, DecidableEq

namespace Polarity

def all : List Polarity := [positive, negative]

def name : Polarity → String
  | positive => "positive"
  | negative => "negative"

end Polarity

namespace Control

/-- The control kinds that have a name of their own. -/
def named : List Control := [pose, depth, canny, lineart, scribble, segmentation, lights]

def name : Control → String
  | pose => "pose"
  | depth => "depth"
  | canny => "canny"
  | lineart => "lineart"
  | scribble => "scribble"
  | segmentation => "segmentation"
  | lights => "lights"
  | other name => name

/-- The control kind of a subtype; several have a second spelling. -/
def ofSubtype : String → Control
  | "pose" | "openpose" => pose
  | "depth" => depth
  | "canny" | "edge" | "edges" => canny
  | "lineart" | "line-art" => lineart
  | "scribble" | "sketch" => scribble
  | "segmentation" | "segment" | "seg" => segmentation
  | "lights" | "light" => lights
  | subtype => other subtype

/-- The control-net model that takes guides of this kind. -/
def model? : Control → Option String
  | pose => some "controlnet-openpose-sdxl"
  | depth => some "controlnet-depth-sdxl"
  | canny => some "controlnet-canny-sdxl"
  | lineart => some "controlnet-lineart-sdxl"
  | scribble => some "controlnet-scribble-sdxl"
  | segmentation => some "controlnet-segmentation-sdxl"
  | lights | other _ => none

/-- The remote preprocessor that makes a guide of this kind from an image. -/
def preprocessor? : Control → Option String
  | pose => some "openpose"
  | depth => some "depth_midas"
  | canny => some "canny"
  | lineart => some "lineart"
  | scribble => some "scribble_hed"
  | segmentation => some "segmentation_ofade20k"
  | lights | other _ => none

end Control

namespace Tool

def all : List Tool := [upscale, removeBackground, inpaint, outpaint]

def name : Tool → String
  | upscale => "upscale"
  | removeBackground => "remove-background"
  | inpaint => "inpaint"
  | outpaint => "outpaint"

def ofSubtype? : String → Option Tool
  | "upscale" => some upscale
  | "remove-background" | "remove-bg" => some removeBackground
  | "inpaint" => some inpaint
  | "outpaint" => some outpaint
  | _ => none

end Tool

namespace Kontext

def all : List Kontext := [reference, rescene, reangle, remix]

def name : Kontext → String
  | reference => "reference"
  | rescene => "rescene"
  | reangle => "reangle"
  | remix => "remix"

def ofSubtype? : String → Option Kontext
  | "reference" => some reference
  | "rescene" => some rescene
  | "reangle" => some reangle
  | "remix" => some remix
  | _ => none

end Kontext

namespace Role

/-- The name of the role's family. -/
def name : Role → String
  | engine => "engine"
  | lora => "lora"
  | prompt _ => "prompt"
  | controlNet _ => "control-net"
  | tool _ => "tool"
  | kontext _ => "kontext"
  | imageToImage => "image-to-image"
  | imageSource => "image-source"
  | output => "output"
  | unsupported _ => "unsupported"
  | passThrough => "pass-through"

/-- What the role says beyond its family. -/
def subtype? : Role → Option String
  | prompt p => some p.name
  | controlNet c => some c.name
  | tool t => some t.name
  | kontext k => some k.name
  | _ => none

/-- The plainest type string that stands for the role. -/
def typeString : Role → String
  | prompt .positive => "prompt"
  | unsupported type => type
  | role =>
    match role.subtype? with
    | some subtype => role.name ++ "-" ++ subtype
    | none => role.name

end Role

end ImageGraph
