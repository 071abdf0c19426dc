import ImageGraph.Client.Http
import ImageGraph.Proofs.Execution.Exclusion
import ImageGraph.Proofs.Execution.Order
import ImageGraph.Proofs.Store.Refinement
import ImageGraph.Proofs.Graph.Ancestors
import ImageGraph.Proofs.Store.History
import ImageGraph.Proofs.Execution.Ledger
import ImageGraph.Proofs.Execution.Overlap
import ImageGraph.Proofs.Request.Guide
import ImageGraph.Proofs.Request.Rerun
import ImageGraph.Proofs.Request.Reorder
import ImageGraph.Proofs.Upload.Settling
import ImageGraph.Proofs.Execution.Work
import ImageGraph.Proofs.Execution.Retry
import ImageGraph.Proofs.Upload.Reference
import ImageGraph.Proofs.Request.Unread
import ImageGraph.Proofs.Execution.Frame
import ImageGraph.Proofs.Execution.Usable
import ImageGraph.Proofs.Execution.Together
import ImageGraph.Proofs.Graph.Insertion
import ImageGraph.Proofs.Execution.Description
import ImageGraph.Proofs.Request.Signature
import ImageGraph.Proofs.Request.Snapshot
import ImageGraph.Proofs.Graph.Preorder
import ImageGraph.Proofs.Request.Controls
import ImageGraph.Proofs.Execution.MainCall
import ImageGraph.Proofs.Execution.Doomed
import ImageGraph.Proofs.Role.Classification
import ImageGraph.Proofs.Role.Spelling
import ImageGraph.Proofs.Request.Images
import ImageGraph.Proofs.Request.Prompts
import ImageGraph.Proofs.Request.Adapters
import ImageGraph.Proofs.Service.Response
import ImageGraph.Proofs.Upload.Agreement
import ImageGraph.Proofs.Client.Service
import ImageGraph.Proofs.Client.Guide
import ImageGraph.Proofs.Client.ImageData
import ImageGraph.Proofs.Client.Settings
import ImageGraph.Proofs.Graph.Patch
import ImageGraph.Proofs.Graph.Worklist
import ImageGraph.Proofs.Wire
