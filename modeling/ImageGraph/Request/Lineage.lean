import ImageGraph.Request.Wire
import ImageGraph.Settings

/-!
What the ancestors of a target contribute to a request: images, model, adapters and prompts.
-/

namespace ImageGraph

/-- The reference of an image that is held remotely: its URL, or else its identifier. A data URL is
no reference, since it has to be uploaded first. -/
def Node.remote? (n : Node) (urlKey idKey : String) : Option String :=
  ((n.text? urlKey).filter fun url => !Text.startsWith "data:" url) <|> n.text? idKey

def Node.image? (n : Node) : Option String :=
  n.remote? "imageUrl" "imageId"

def Node.mask? (n : Node) : Option String :=
  n.remote? "maskUrl" "maskId"

/-- The classified ancestors of a target, in the order of the search. -/
structure Lineage where
  target : NodeId
  ancestors : List Classified
  settings : Settings

/-- The roles whose image may serve as a base image. A control image means something else. -/
def Role.mayHoldBase : Role → Bool
  | .imageSource | .passThrough | .output | .imageToImage | .tool _ | .kontext _ => true
  | _ => false

namespace Lineage

def withRole (l : Lineage) (r : Role) : List Classified :=
  l.ancestors.filter fun a => a.role == r

/-- The nodes that may supply a base image. The target holds the result of an earlier run and is
not among them. -/
def candidates (l : Lineage) : List Classified :=
  l.ancestors.filter fun a => a.node.id != l.target && a.role.mayHoldBase

def baseImage? (l : Lineage) : Option String :=
  l.candidates.findSome? fun a => a.node.image?

/-- The model of the first engine, or else the default. -/
def model (l : Lineage) : String :=
  ((l.withRole .engine).head?.bind fun a => a.node.text? "model").getD l.settings.defaultModel

/-- The adapter that an entry of an engine's list describes. -/
def loraOf? (l : Lineage) : Json → Option Lora
  | .str id => if Text.allBlank id then none else some ⟨id, l.settings.defaultLoraWeight⟩
  | j => do
    let id ← (j.firstOf? Json.string? ["id", "name", "url"]).filter fun s => !Text.allBlank s
    let weight := j.firstOf? Json.float? ["weight", "scale", "strength"]
    pure ⟨id, weight.getD l.settings.defaultLoraWeight⟩

/-- The adapter that a node of its own describes. -/
def loraNode? (l : Lineage) (n : Node) : Option Lora := do
  let id ← n.text? "lora" <|> n.text? "model"
  let weight := n.number? "weight" <|> n.number? "strength"
  pure ⟨id, weight.getD l.settings.defaultLoraWeight⟩

/-- The adapters of the engines, then those with a node of their own in the order of its id. -/
def loras (l : Lineage) : List Lora :=
  let attached := (l.withRole .engine).flatMap fun a =>
    (((a.node.attribute? "loras").bind Json.array?).getD []).filterMap l.loraOf?
  let standalone := (l.withRole .lora).mergeSort fun a b => a.node.id ≤ b.node.id
  attached ++ standalone.filterMap fun a => l.loraNode? a.node

/-- The trimmed texts of one polarity, with a blank line between them. -/
def prompt? (l : Lineage) (p : Polarity) : Option String :=
  match (l.withRole (.prompt p)).filterMap fun a => a.node.text? "text" with
  | [] => none
  | texts => some ("\n\n".intercalate (texts.map Text.trim))

/-- The negative prompt, unless it is shorter than the service accepts. -/
def negativePrompt? (l : Lineage) : Option String :=
  (l.prompt? .negative).filter fun s =>
    l.settings.minNegativePromptLen.toNat ≤ (Text.trim s).length

/-- The prompts connected to the target, or else the one that the node holds itself. -/
def promptFor? (l : Lineage) (n : Node) : Option String :=
  l.prompt? .positive <|> (n.text? "prompt").map Text.trim

/-- The parameters of every generative call: model, adapters and prompts. -/
def generativeParams (l : Lineage) : Json.Object :=
  Json.Object.empty.insert "model" (.str l.model)
    |>.insertSome "loras" (Json.nonempty? (l.loras.map Lora.toJson))
    |>.insertSome "positivePrompt" ((l.prompt? .positive).map .str)
    |>.insertSome "negativePrompt" (l.negativePrompt?.map .str)

end Lineage

end ImageGraph
