import ImageGraph.Service.Basic

/-!
The functions by which the service is called, one for each of its methods. Calling them may have
effects of any kind.
-/

namespace ImageGraph

structure Service (m : Type → Type) where
  textToImage : Json.Object → m (Except ServiceError Json)
  imageToImage : Json.Object → m (Except ServiceError Json)
  upscale : Json.Object → m (Except ServiceError Json)
  removeBackground : Json.Object → m (Except ServiceError Json)
  inpaint : Json.Object → m (Except ServiceError Json)
  outpaint : Json.Object → m (Except ServiceError Json)
  styleTransfer : Json.Object → m (Except ServiceError Json)
  recombine : Json.Object → m (Except ServiceError Json)
  preprocess (image preprocessor : String) : m (Except ServiceError String)
  uploadImage (data : String) : m (Except ServiceError UploadedImage)

namespace Service

variable {m : Type → Type}

/-- Makes a main call by the function for its method. -/
def dispatch (s : Service m) (step : MainStep) : m (Except ServiceError Json) :=
  match step.method with
  | .txt2img => s.textToImage step.params
  | .img2img => s.imageToImage step.params
  | .upscale => s.upscale step.params
  | .removeBackground => s.removeBackground step.params
  | .inpaint => s.inpaint step.params
  | .outpaint => s.outpaint step.params
  | .styleTransfer => s.styleTransfer step.params
  | .recombine => s.recombine step.params

def answer (s : Service m) : (c : ServiceCall) → m c.Answer
  | .upload data => s.uploadImage data
  | .preprocess image preprocessor => s.preprocess image preprocessor
  | .main step => s.dispatch step

end Service

end ImageGraph
