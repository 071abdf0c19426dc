import ImageGraph.Request.Error
import ImageGraph.Service.Basic
import ImageGraph.Store.Basic

/-!
Why an execution fails, by the phase in which it does.
-/

namespace ImageGraph

inductive ExecutionError where
  | compilation (cause : CompileError)
  | upload (node : NodeId) (cause : ServiceError)
  | preprocessing (node : NodeId) (cause : ServiceError)
  /-- The main call failed, or its response reports an error or has no image. -/
  | generation (reason : String)
  | alreadyRunning (output : NodeId)
  | store (cause : StoreError)
  deriving Repr, DecidableEq

/-- A coarse class of failures. -/
inductive ErrorKind where
  | compilation
  | upload
  | preprocessing
  | generation
  | conflict
  | internal
  deriving Repr, DecidableEq

namespace ExecutionError

def message : ExecutionError → String
  | compilation cause => "Compilation error: " ++ cause.message
  | upload node cause => "Upload failed for node '" ++ node ++ "': " ++ cause.message
  | preprocessing node cause => "Preprocessing failed for node '" ++ node ++ "': " ++ cause.message
  | generation reason => "Generation failed: " ++ reason
  | alreadyRunning output =>
    "A generation for output node '" ++ output ++ "' is already running"
  | store cause => "Store error: " ++ cause.message

def kind : ExecutionError → ErrorKind
  | compilation _ => .compilation
  | upload _ _ => .upload
  | preprocessing _ _ => .preprocessing
  | generation _ => .generation
  | alreadyRunning _ => .conflict
  | store _ => .internal

/-- A failure of the main call. -/
def ofMainCall (cause : ServiceError) : ExecutionError :=
  generation cause.message

end ExecutionError

end ImageGraph
