import ImageGraph.Client.Reply
import ImageGraph.Proofs.Upload.Reference
import ImageGraph.Proofs.Upload.Settling

/-! Whether an upload that was answered is done with. The client accepts every identifier and every
URL that is not empty, but for a node a blank identifier is none. An image that comes back under one
waits for its upload again, and has a reference only if its URL is one. -/

namespace ImageGraph

open Json

/-! ### What is accepted -/

/-- The part of a response where the reference is looked for. -/
def Client.uploadBody (response : Json) : Json :=
  ((response.field? "data").filter Json.isObject).getD response

theorem Client.parseUpload_eq_ok {response : Json} {u : UploadedImage} :
    parseUpload response = .ok u ↔
      (uploadBody response).textAt? ["id", "imageId"] = some u.id ∧
        (uploadBody response).textAt? ["url", "imageUrl"] = some u.url := by
  unfold parseUpload uploadBody
  generalize ((response.field? "data").filter Json.isObject).getD response = body
  cases id : body.textAt? ["id", "imageId"] with
  | none => simp [id]
  | some =>
    cases url : body.textAt? ["url", "imageUrl"] with
    | none => simp [id, url]
    | some => cases u; simp [id, url]

/-- What can be accepted has an identifier and a URL that are not empty, and there is no other
condition. -/
theorem Client.exists_parseUpload_iff {u : UploadedImage} :
    (∃ response, parseUpload response = .ok u) ↔ u.id ≠ "" ∧ u.url ≠ "" := by
  constructor
  · rintro ⟨response, accepted⟩
    obtain ⟨id, url⟩ := parseUpload_eq_ok.1 accepted
    exact ⟨(textAt?_eq_some.1 id).2, (textAt?_eq_some.1 url).2⟩
  · rintro ⟨id, url⟩
    refine ⟨.obj [("id", .str u.id), ("url", .str u.url)], parseUpload_eq_ok.2 ⟨?_, ?_⟩⟩
    · exact textAt?_eq_some.2 ⟨⟨[], "id", ["imageId"], rfl, rfl, nofun⟩, id⟩
    · exact textAt?_eq_some.2 ⟨⟨[], "url", ["imageUrl"], rfl, rfl, nofun⟩, url⟩

/-! ### What a node makes of it -/

namespace UploadedImage

variable {u : UploadedImage}

/-- The identifier counts as one. -/
def Identified (u : UploadedImage) : Prop :=
  Text.allBlank u.id = false

/-- The URL counts as one, and is no data URL. -/
def Located (u : UploadedImage) : Prop :=
  Text.allBlank u.url = false ∧ Text.startsWith "data:" u.url = false

theorem not_identified : ¬ u.Identified ↔ Text.allBlank u.id = true := by
  rw [Identified, Bool.not_eq_false]

end UploadedImage

/-- The reference that a request takes for the image or the mask of a node. -/
def Node.reference? (n : Node) (slot : ImageSlot) : Option String :=
  if slot = .mask then n.mask? else n.image?

theorem Node.reference?_eq {n : Node} {slot : ImageSlot} (hs : slot ∈ ImageSlot.all) :
    n.reference? slot = n.remote? slot.urlKey slot.idKey := by
  simp only [ImageSlot.all, List.mem_cons, List.not_mem_nil, or_false] at hs
  obtain rfl | rfl := hs
  · exact if_neg (by decide)
  · exact if_pos rfl

/-- A node after the answer to one of its uploads: it is done with just if the identifier counts,
and otherwise waits for the same upload again. It has a reference just if one of the two counts. -/
structure Node.Answered (n : Node) (p : PendingUpload) (u : UploadedImage) : Prop where
  done : n.pending? p.slot = none ↔ u.Identified
  again : ¬ u.Identified → n.pending? p.slot = some p
  reference : (n.reference? p.slot).isSome ↔ u.Identified ∨ u.Located

theorem Node.Answered.of_attributes {n : Node} {p : PendingUpload} {u : UploadedImage}
    (hs : p.slot ∈ ImageSlot.all) (node : n.id = p.nodeId)
    (data : n.text? p.slot.dataKey = some p.data)
    (written : ∀ key, key = p.slot.idKey ∨ key = p.slot.urlKey →
      n.attribute? key = (p.patch u).get? key) : n.Answered p u := by
  have id : n.attribute? p.slot.idKey = some (.str u.id) := by
    rw [written _ (.inl rfl), PendingUpload.get?_patch, if_neg (ImageSlot.idKey_ne_urlKey _ hs),
      if_pos rfl]
  have url : n.attribute? p.slot.urlKey = some (.str u.url) := by
    rw [written _ (.inr rfl), PendingUpload.get?_patch, if_pos rfl]
  have waits := pending?_of_identifier node id data
  have unidentified : n.text? p.slot.idKey = none ↔ ¬ u.Identified := by
    rw [text?_of_attribute? id, UploadedImage.not_identified]
    cases Text.allBlank u.id <;> simp
  have unlocated : (∀ t, n.text? p.slot.urlKey = some t → Text.startsWith "data:" t = true) ↔
      ¬ u.Located := by
    rw [text?_of_attribute? url, UploadedImage.Located]
    cases Text.allBlank u.url <;> simp
  constructor
  · rw [waits, UploadedImage.Identified]
    cases Text.allBlank u.id <;> simp
  · intro blank
    rw [waits, if_pos (UploadedImage.not_identified.1 blank)]
  · rw [reference?_eq hs, ← not_iff_not, Option.not_isSome_iff_eq_none, remote?_eq_none_iff,
      unlocated, unidentified, not_or]

namespace Workflow

variable {w : Workflow} {n : Node} {slot : ImageSlot} {p : PendingUpload} {u : UploadedImage}
  (hs : slot ∈ ImageSlot.all) (there : w.node? n.id = some n) (pending : n.pending? slot = some p)
include hs there pending

theorem answered_settle :
    ∃ n', (w.settle p u).node? n.id = some n' ∧ n'.Answered p u := by
  obtain ⟨node, rfl⟩ := Node.pending?_eq_some pending
  refine ⟨n.merge (p.patch u), by rw [node?_settle, there, Option.map_some, if_pos node.symm], ?_⟩
  have unwritten : (p.patch u).get? p.slot.dataKey = none :=
    PendingUpload.get?_patch_eq_none fun own =>
      (ImageSlot.written_apart _ hs _ hs _ (by simp [ImageSlot.keys]) own).2 rfl
  refine .of_attributes hs node.symm ?_ fun key hk => ?_
  · rw [Node.text?, Node.attribute?_merge, unwritten]
    exact Node.text?_of_pending? pending
  · rw [Node.attribute?_merge, PendingUpload.patchedValue_patch hk]

theorem answered_run {answers : Answers} {nodes : List Node} {last : Uploads}
    (run : Uploads.Run answers (Uploads.start w nodes) last) (finished : last.Finished)
    (hn : n ∈ nodes) (sole : ∀ m ∈ nodes, m.id = n.id → m = n) (answered : answers p = .ok u) :
    ∃ n', last.workflow.node? n.id = some n' ∧ n'.Answered p u := by
  obtain ⟨order, perm, written⟩ :=
    ((Uploads.Consistent.of_start answers w nodes).run run).written_of_finished finished
  have made : ∀ q, q ∈ order ↔ q ∈ pendingUploads nodes := fun q => perm.mem_iff
  have kept : ((w.answeredAll answers order).node? n.id).isSome := by
    rw [isSome_node?_answeredAll, there]
    rfl
  obtain ⟨n', there'⟩ := Option.isSome_iff_exists.1 kept
  obtain ⟨node, rfl⟩ := Node.pending?_eq_some pending
  refine ⟨n', written ▸ there', .of_attributes hs ((node?_id there').trans node.symm) ?_ ?_⟩
  · rw [text?_dataKey hs (fun q hq => slot_of_mem_pendingUploads ((made q).1 hq)) there there']
    exact Node.text?_of_pending? pending
  · exact fun key hk => attribute?_of_pending? hn hs sole made there there' pending answered hk

end Workflow

namespace Uploads

/-- A response that is accepted has an identifier and a URL that are not empty. When they have been
written to a node, its slot is done with just if the identifier is not blank. That is so at once,
and also in the end, whatever the order in which this upload and others are sent and settled. -/
theorem accepted_answered {w : Workflow} {n : Node} {slot : ImageSlot} {p : PendingUpload}
    {u : UploadedImage} {response : Json} (hs : slot ∈ ImageSlot.all)
    (there : w.node? n.id = some n) (pending : n.pending? slot = some p)
    (accepted : Client.parseUpload response = .ok u) :
    u.id ≠ "" ∧ u.url ≠ "" ∧
      (∃ n', (w.settle p u).node? n.id = some n' ∧ n'.Answered p u) ∧
      ∀ (answers : Answers) (nodes : List Node) (last : Uploads),
        Run answers (start w nodes) last → last.Finished → n ∈ nodes →
        (∀ m ∈ nodes, m.id = n.id → m = n) → answers p = .ok u →
        ∃ n', last.workflow.node? n.id = some n' ∧ n'.Answered p u := by
  obtain ⟨id, url⟩ := Client.exists_parseUpload_iff.1 ⟨response, accepted⟩
  refine ⟨id, url, Workflow.answered_settle hs there pending, ?_⟩
  intro answers nodes last run finished hn sole answered
  exact Workflow.answered_run hs there pending run finished hn sole answered

/-- A mask comes back under a blank identifier. It can be referred to, but waits again. -/
theorem accepted_answered_blank_mask :
    let n : Node := ⟨"n", "image", .obj [("imageData", .str "whole"), ("maskData", .str "part")]⟩
    let w : Workflow := ⟨"w", "", [n], []⟩
    let image : PendingUpload := ⟨"n", .image, "whole"⟩
    let mask : PendingUpload := ⟨"n", .mask, "part"⟩
    let answers : Answers := fun p =>
      if p.slot = .mask then .ok ⟨"\t", "/1"⟩ else .error (.transport "lost")
    let last : Uploads := ⟨w.answeredAll answers [image, mask], [image, mask],
      [(image, .settled (answers image)), (mask, .settled (answers mask))]⟩
    n.pending? .mask = some mask ∧ Run answers (start w w.nodes) last ∧ last.Finished ∧
      ∃ n', last.workflow.node? "n" = some n' ∧ n'.pending? .mask = some mask ∧
        (n'.reference? .mask).isSome := by
  intro n w image mask answers last
  have waiting : pendingUploads w.nodes = [image, mask] := by decide +kernel
  have run : Run answers (start w w.nodes) last := by
    rw [start, waiting]
    exact run_in_order answers w [] [image, mask] []
  have finished : last.Finished := by simp [Finished, last, UploadState.isSettled]
  have pending : n.pending? .mask = some mask := by decide +kernel
  have accepted : Client.parseUpload (.obj [("id", .str "\t"), ("url", .str "/1")]) =
      .ok ⟨"\t", "/1"⟩ := rfl
  obtain ⟨-, -, -, whole⟩ := accepted_answered (w := w) (by decide) rfl pending accepted
  obtain ⟨n', there, answered⟩ := whole answers w.nodes last run finished
    (List.mem_singleton_self n) (fun m hm _ => List.mem_singleton.1 hm) rfl
  have blank : ¬ UploadedImage.Identified ⟨"\t", "/1"⟩ :=
    UploadedImage.not_identified.2 (by decide +kernel)
  have located : UploadedImage.Located ⟨"\t", "/1"⟩ := ⟨by decide +kernel, by decide +kernel⟩
  exact ⟨pending, run, finished, n', there, answered.again blank,
    answered.reference.2 (.inr located)⟩

/-- The client accepts a blank identifier, and the upload is still to be made. -/
theorem blank_identifier_waits :
    let response : Json := .obj [("id", .str " "), ("url", .str "/1")]
    let n : Node := ⟨"n", "image", .obj [("imageData", .str "AAAA")]⟩
    let p : PendingUpload := ⟨"n", .image, "AAAA"⟩
    let w : Workflow := ⟨"w", "", [n], []⟩
    Client.parseUpload response = .ok ⟨" ", "/1"⟩ ∧ n.pending? .image = some p ∧
      ((w.settle p ⟨" ", "/1"⟩).node? "n").bind (fun n' => n'.pending? .image) = some p := by
  refine ⟨rfl, ?_, ?_⟩
  · decide +kernel
  · decide +kernel

end Uploads

end ImageGraph
