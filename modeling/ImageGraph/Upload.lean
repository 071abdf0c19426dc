import ImageGraph.Graph.Workflow
import ImageGraph.Service.Basic

/-!
Images that a node holds as local data and that the service does not know yet.
-/

namespace ImageGraph

/-- The attributes of one image of a node: its data, and the identifier and URL it gets. -/
structure ImageSlot where
  dataKey : String
  idKey : String
  urlKey : String
  deriving Repr, DecidableEq

namespace ImageSlot

def image : ImageSlot := ⟨"imageData", "imageId", "imageUrl"⟩

def mask : ImageSlot := ⟨"maskData", "maskId", "maskUrl"⟩

def all : List ImageSlot := [image, mask]

end ImageSlot

structure PendingUpload where
  nodeId : NodeId
  slot : ImageSlot
  data : String
  deriving Repr, DecidableEq

/-- The upload that a slot waits for: it has data and no identifier. -/
def Node.pending? (n : Node) (slot : ImageSlot) : Option PendingUpload :=
  match n.text? slot.idKey with
  | some _ => none
  | none => (n.text? slot.dataKey).map fun data => ⟨n.id, slot, data⟩

/-- The uploads that nodes wait for, in node order, an image before a mask. -/
def pendingUploads (nodes : List Node) : List PendingUpload :=
  nodes.flatMap fun n => ImageSlot.all.filterMap n.pending?

/-- Writes the reference of an uploaded image to its node. -/
def Workflow.settle (w : Workflow) (p : PendingUpload) (u : UploadedImage) : Workflow :=
  w.update p.nodeId
    (Json.Object.empty.insert p.slot.idKey (.str u.id) |>.insert p.slot.urlKey (.str u.url))

end ImageGraph
