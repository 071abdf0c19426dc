import ImageGraph.Role.Basic

/-!
Roles as data: the name of the role under `role`, and what it carries under `subtype`.
-/

namespace ImageGraph

open Json

def Polarity.toJson (p : Polarity) : Json := .str p.name

def Polarity.ofJson? : Json → Option Polarity := choice? Polarity.all Polarity.name

def Tool.toJson (t : Tool) : Json := .str t.name

def Tool.ofJson? : Json → Option Tool := choice? Tool.all Tool.name

def Kontext.toJson (k : Kontext) : Json := .str k.name

def Kontext.ofJson? : Json → Option Kontext := choice? Kontext.all Kontext.name

def Control.toJson : Control → Json
  | other name => .obj [("other", .str name)]
  | control => .str control.name

def Control.ofJson? : Json → Option Control
  | .obj [("other", .str name)] => some (.other name)
  | j => choice? Control.named Control.name j

namespace Role

/-- The roles that carry nothing. -/
def plain : List Role := [engine, lora, imageToImage, imageSource, output, passThrough]

def tag : Role → String
  | engine => "engine"
  | lora => "lora"
  | prompt _ => "prompt"
  | controlNet _ => "control_net"
  | tool _ => "tool"
  | kontext _ => "kontext"
  | imageToImage => "image_to_image"
  | imageSource => "image_source"
  | output => "output"
  | unsupported _ => "unsupported"
  | passThrough => "pass_through"

def content? : Role → Option Json
  | prompt p => some p.toJson
  | controlNet c => some c.toJson
  | tool t => some t.toJson
  | kontext k => some k.toJson
  | unsupported type => some (.str type)
  | _ => none

def toJson (r : Role) : Json :=
  match r.content? with
  | some content => .obj [("role", .str r.tag), ("subtype", content)]
  | none => .obj [("role", .str r.tag)]

/-- The tag of a role: its name, or an object with the name as its one key. -/
def tag? : Json → Option String
  | .str s => some s
  | .obj [(s, .null)] => some s
  | _ => none

/-- The role with a tag and the content given for it. -/
def ofParts? (tag : String) (content : Option Json) : Option Role :=
  match tag with
  | "prompt" => (content.bind Polarity.ofJson?).map prompt
  | "control_net" => (content.bind Control.ofJson?).map controlNet
  | "tool" => (content.bind Tool.ofJson?).map Role.tool
  | "kontext" => (content.bind Kontext.ofJson?).map kontext
  | "unsupported" => (content.bind string?).map unsupported
  | _ => if (content.getD .null).isNull then chosen? plain Role.tag tag else none

/-- Reads an object with both keys, or an array of the plain name and the content. -/
def ofJson? : Json → Option Role
  | .obj entries => do
    ofParts? (← tag? (← entries.lookup "role")) (entries.lookup "subtype")
  | .arr [.str name, content] => ofParts? name (some content)
  | _ => none

end Role

end ImageGraph
