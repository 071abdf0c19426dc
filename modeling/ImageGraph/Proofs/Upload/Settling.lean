import ImageGraph.Execution.Cycle
import ImageGraph.Proofs.Upload.Answer
import Mathlib.Logic.Relation

/-! Uploads that are under way at the same time. Each is sent and later settled, and meanwhile any
of the others may be sent or settled. What they come to does not depend on the order. -/

namespace ImageGraph

inductive UploadState where
  | unsent
  | sent
  | settled (answer : Except ServiceError UploadedImage)

namespace UploadState

def isIssued : UploadState → Bool
  | unsent => false
  | _ => true

def isSettled : UploadState → Bool
  | settled _ => true
  | _ => false

theorem isIssued_of_isSettled {u : UploadState} (h : u.isSettled = true) : u.isIssued = true := by
  cases u with
  | unsent => cases h
  | sent => rfl
  | settled => rfl

end UploadState

/-- The uploads of a list of nodes, in node order, as far as they have come. -/
structure Uploads where
  workflow : Workflow
  /-- The uploads in the order in which they were sent. -/
  issued : List PendingUpload
  slots : List (PendingUpload × UploadState)

namespace Uploads

def start (w : Workflow) (nodes : List Node) : Uploads where
  workflow := w
  issued := []
  slots := (pendingUploads nodes).map fun p => (p, .unsent)

/-- Any upload is sent or settled. A reference is written as soon as it comes. -/
inductive Step (answers : Answers) : Uploads → Uploads → Prop where
  | send (w : Workflow) (issued : List PendingUpload)
      (before after : List (PendingUpload × UploadState)) (p : PendingUpload) :
      Step answers ⟨w, issued, before ++ (p, .unsent) :: after⟩
        ⟨w, issued ++ [p], before ++ (p, .sent) :: after⟩
  | settle (w : Workflow) (issued : List PendingUpload)
      (before after : List (PendingUpload × UploadState)) (p : PendingUpload) :
      Step answers ⟨w, issued, before ++ (p, .sent) :: after⟩
        ⟨w.answered answers p, issued, before ++ (p, .settled (answers p)) :: after⟩

abbrev Run (answers : Answers) : Uploads → Uploads → Prop :=
  Relation.ReflTransGen (Step answers)

def Finished (s : Uploads) : Prop :=
  ∀ slot ∈ s.slots, slot.2.isSettled = true

def failure? : PendingUpload × UploadState → Option ExecutionError
  | (p, .settled (.error cause)) => some (.upload p.nodeId cause)
  | _ => none

/-- The first failure in node order. -/
def firstFailure? (s : Uploads) : Option ExecutionError :=
  s.slots.findSome? failure?

/-- What the phase returns once it has finished. -/
def result (s : Uploads) : Except ExecutionError Nat :=
  match s.firstFailure? with
  | some e => .error e
  | none => .ok s.slots.length

/-! ### What every step keeps -/

/-- The answers so far are written in some order. -/
structure Consistent (answers : Answers) (w : Workflow) (pending : List PendingUpload)
    (s : Uploads) : Prop where
  slots : s.slots.map Prod.fst = pending
  settled : ∀ slot ∈ s.slots, ∀ answer, slot.2 = .settled answer → answer = answers slot.1
  issued : s.issued.Perm ((s.slots.filter fun slot => slot.2.isIssued).map Prod.fst)
  written : ∃ order : List PendingUpload,
    order.Perm ((s.slots.filter fun slot => slot.2.isSettled).map Prod.fst) ∧
      s.workflow = w.answeredAll answers order

namespace Consistent

variable {answers : Answers} {w : Workflow} {pending : List PendingUpload} {s s' : Uploads}

theorem of_start (answers : Answers) (w : Workflow) (nodes : List Node) :
    Consistent answers w (pendingUploads nodes) (start w nodes) where
  slots := by simp [start, Function.comp_def]
  settled slot hs answer h := by
    obtain ⟨p, -, rfl⟩ := List.mem_map.1 hs
    cases h
  issued := by simp [start, UploadState.isIssued]
  written := ⟨[], by simp [start, UploadState.isSettled], rfl⟩

/-- What joins a list goes to its end, or to its place among the others. -/
private theorem perm_insert {α : Type} {xs before after : List α} (h : xs.Perm (before ++ after))
    (a : α) : (xs ++ [a]).Perm (before ++ a :: after) :=
  (List.perm_append_singleton a xs).trans ((h.cons a).trans List.perm_middle.symm)

theorem step (h : Consistent answers w pending s) (hs : Step answers s s') :
    Consistent answers w pending s' := by
  obtain ⟨slots, settled, issued, order, perm, written⟩ := h
  cases hs with
  | send v issued' before after p =>
    refine ⟨by simpa using slots, fun slot hm answer ha => ?_, ?_, order, ?_, written⟩
    · obtain hm | hm := List.mem_append.1 hm
      · exact settled slot (List.mem_append_left _ hm) answer ha
      · obtain rfl | hm := List.mem_cons.1 hm
        · cases ha
        · exact settled slot (by simp [hm]) answer ha
    · simp only [List.filter_append, List.filter_cons, UploadState.isIssued, List.map_append,
        Bool.false_eq_true, if_false, if_true, List.map_cons] at issued ⊢
      exact perm_insert issued p
    · simpa [UploadState.isSettled] using perm
  | settle v issued' before after p =>
    refine ⟨by simpa using slots, fun slot hm answer ha => ?_, ?_, order ++ [p], ?_, ?_⟩
    · obtain hm | hm := List.mem_append.1 hm
      · exact settled slot (List.mem_append_left _ hm) answer ha
      · obtain rfl | hm := List.mem_cons.1 hm
        · cases ha
          rfl
        · exact settled slot (by simp [hm]) answer ha
    · simpa [UploadState.isIssued] using issued
    · simp only [List.filter_append, List.filter_cons, UploadState.isSettled, List.map_append,
        Bool.false_eq_true, if_false, if_true, List.map_cons] at perm ⊢
      exact perm_insert perm p
    · rw [Workflow.answeredAll_append, ← written]
      rfl

theorem run (h : Consistent answers w pending s) (hr : Run answers s s') :
    Consistent answers w pending s' := by
  induction hr with
  | refl => exact h
  | tail _ last ih => exact ih.step last

/-- In the end each slot has the answer to its upload. -/
theorem slots_of_finished (h : Consistent answers w pending s) (finished : s.Finished) :
    s.slots = pending.map fun p => (p, .settled (answers p)) := by
  rw [← h.slots, List.map_map]
  have same : ∀ slot ∈ s.slots, (slot.1, UploadState.settled (answers slot.1)) = slot := by
    rintro ⟨p, state⟩ hs
    cases state with
    | unsent => cases finished _ hs
    | sent => cases finished _ hs
    | settled answer => rw [h.settled _ hs answer rfl]
  exact (List.map_id _).symm.trans (List.map_congr_left fun slot hs => (same slot hs).symm)

theorem issued_of_finished (h : Consistent answers w pending s) (finished : s.Finished) :
    s.issued.Perm pending := by
  have all : (s.slots.filter fun slot => slot.2.isIssued) = s.slots :=
    List.filter_eq_self.2 fun slot hs => UploadState.isIssued_of_isSettled (finished slot hs)
  have issued := h.issued
  rwa [all, h.slots] at issued

/-- In the end the answers are written, in whatever order. -/
theorem written_of_finished (h : Consistent answers w pending s) (finished : s.Finished) :
    ∃ order : List PendingUpload, order.Perm pending ∧
      s.workflow = w.answeredAll answers order := by
  obtain ⟨order, perm, written⟩ := h.written
  rw [List.filter_eq_self.2 finished, h.slots] at perm
  exact ⟨order, perm, written⟩

/-- In the end the workflow is that of the answers in node order. -/
theorem workflow_of_finished {nodes : List Node}
    (h : Consistent answers w (pendingUploads nodes) s) (finished : s.Finished)
    (distinct : (nodes.map Node.id).Nodup) :
    s.workflow = w.answeredAll answers (pendingUploads nodes) := by
  obtain ⟨order, perm, written⟩ := h.written_of_finished finished
  rw [written, Workflow.answeredAll_perm perm (fun _ => slot_of_mem_pendingUploads)
    (places_pendingUploads_nodup distinct)]

end Consistent

/-! ### What is returned -/

section

variable {answers : Answers} {pending : List PendingUpload} {s : Uploads}
  (settled : s.slots = pending.map fun p => (p, .settled (answers p)))
include settled

theorem firstFailure?_eq :
    s.firstFailure? = pending.findSome? fun p => failure? (p, .settled (answers p)) := by
  rw [firstFailure?, settled, List.findSome?_map]
  rfl

omit settled in
theorem failure?_eq_none {p : PendingUpload} :
    failure? (p, .settled (answers p)) = none ↔ (answers p).isOk = true := by
  cases ha : answers p <;> simp [failure?, Except.isOk, Except.toBool]

omit settled in
theorem failure?_eq_some {p : PendingUpload} {e : ExecutionError} :
    failure? (p, .settled (answers p)) = some e ↔
      ∃ cause, answers p = .error cause ∧ e = .upload p.nodeId cause := by
  cases ha : answers p <;> simp [failure?, eq_comm]

theorem result_eq_ok {count : Nat} :
    s.result = .ok count ↔ count = pending.length ∧ ∀ p ∈ pending, (answers p).isOk = true := by
  have length : s.slots.length = pending.length := by rw [settled, List.length_map]
  simp only [← failure?_eq_none, ← List.findSome?_eq_none_iff]
  rw [result, firstFailure?_eq settled, length]
  cases pending.findSome? _ <;> simp [eq_comm]

theorem result_eq_error {e : ExecutionError} :
    s.result = .error e ↔ ∃ before p after cause, pending = before ++ p :: after ∧
      (∀ q ∈ before, (answers q).isOk = true) ∧ answers p = .error cause ∧
        e = .upload p.nodeId cause := by
  have first : s.result = .error e ↔ s.firstFailure? = some e := by
    rw [result]
    cases s.firstFailure? <;> simp
  rw [first, firstFailure?_eq settled, List.findSome?_eq_some_iff]
  simp only [failure?_eq_none, failure?_eq_some]
  constructor
  · rintro ⟨before, p, after, whole, ⟨cause, failed, rfl⟩, earlier⟩
    exact ⟨before, p, after, cause, whole, earlier, failed, rfl⟩
  · rintro ⟨before, p, after, cause, whole, earlier, failed, rfl⟩
    exact ⟨before, p, after, whole, ⟨cause, failed, rfl⟩, earlier⟩

end

/-! ### One after the other -/

/-- Uploads can be settled one after the other, each before the next is sent. -/
theorem run_in_order (answers : Answers) (w : Workflow) (issued pending : List PendingUpload)
    (before : List (PendingUpload × UploadState)) :
    Run answers ⟨w, issued, before ++ pending.map fun p => (p, .unsent)⟩
      ⟨w.answeredAll answers pending, issued ++ pending,
        before ++ pending.map fun p => (p, .settled (answers p))⟩ := by
  induction pending generalizing w issued before with
  | nil =>
    rw [List.append_nil]
    exact .refl
  | cons p rest ih =>
    have later := ih (w.answered answers p) (issued ++ [p]) (before ++ [(p, .settled (answers p))])
    rw [List.append_assoc, List.append_assoc, List.append_assoc] at later
    exact .head (.send w issued before _ p) (.head (.settle w (issued ++ [p]) before _ p) later)

theorem exists_finished_run (answers : Answers) (w : Workflow) (nodes : List Node) :
    ∃ last, Run answers (start w nodes) last ∧ last.Finished := by
  refine ⟨_, run_in_order answers w [] (pendingUploads nodes) [], fun slot hs => ?_⟩
  obtain ⟨p, -, rfl⟩ := List.mem_map.1 hs
  rfl

end Uploads

namespace Trigger

/-- Answers uploads for as long as they are made. -/
def answerUploads (t : Trigger) (answers : Answers) (turn : Turn) (uploads : List PendingUpload) :
    Turn :=
  uploads.foldl (fun turn _ =>
    match turn.progress with
    | .waiting (.uploading p rest total failure) =>
      t.resume turn.world (.uploading p rest total failure) (answers p)
    | _ => turn) turn

theorem resume_answered (t : Trigger) (answers : Answers) (w : World) (p : PendingUpload)
    (rest : List PendingUpload) (total : Nat) (failure : Option ExecutionError) :
    t.resume w (.uploading p rest total failure) (answers p) =
      t.proceed { w with workflow := w.workflow.answered answers p } rest total
        (failure <|> Uploads.failure? (p, .settled (answers p))) := by
  rw [Workflow.answered]
  cases answers p with
  | ok u => cases failure <;> rfl
  | error cause => rfl

/-- An execution that is left to itself writes the references one after the other, and keeps the
first failure for the end. -/
theorem answerUploads_proceed (t : Trigger) (answers : Answers) (w : World)
    (uploads : List PendingUpload) (total : Nat) (failure : Option ExecutionError) :
    t.answerUploads answers (t.proceed w uploads total failure) uploads =
      t.proceed { w with workflow := w.workflow.answeredAll answers uploads } [] total
        (failure <|> uploads.findSome? fun p => Uploads.failure? (p, .settled (answers p))) := by
  induction uploads generalizing w failure with
  | nil => cases failure <;> rfl
  | cons p rest ih =>
    calc t.answerUploads answers (t.proceed w (p :: rest) total failure) (p :: rest)
        = t.answerUploads answers (t.resume w (.uploading p rest total failure) (answers p)) rest :=
          rfl
      _ = _ := by
        rw [resume_answered, ih, List.findSome?_cons]
        cases failure with
        | some e => rfl
        | none => cases Uploads.failure? (p, .settled (answers p)) <;> rfl

end Trigger

namespace Uploads

/-- What the uploads of nodes come to. Nothing here depends on the order in which they were settled:
each pending slot has its upload, the workflow and the result are those of the answers in node
order, and a slot is written just if its upload succeeded. -/
structure Settled (answers : Answers) (w : Workflow) (nodes : List Node) (last : Uploads) :
    Prop where
  once : ((pendingUploads nodes).map PendingUpload.place).Nodup
  issued : last.issued.Perm (pendingUploads nodes)
  workflow : last.workflow = w.answeredAll answers (pendingUploads nodes)
  succeeded : ∀ p ∈ pendingUploads nodes, ∀ u, answers p = .ok u →
    last.workflow.attribute? p.nodeId p.slot.idKey = some (.str u.id) ∧
      last.workflow.attribute? p.nodeId p.slot.urlKey = some (.str u.url)
  failed : ∀ p ∈ pendingUploads nodes, ∀ e, answers p = .error e →
    last.workflow.attribute? p.nodeId p.slot.idKey = w.attribute? p.nodeId p.slot.idKey ∧
      last.workflow.attribute? p.nodeId p.slot.urlKey = w.attribute? p.nodeId p.slot.urlKey
  ok : ∀ count, last.result = .ok count ↔
    count = (pendingUploads nodes).length ∧ ∀ p ∈ pendingUploads nodes, (answers p).isOk = true
  error : ∀ e, last.result = .error e ↔ ∃ before p after cause,
    pendingUploads nodes = before ++ p :: after ∧ (∀ q ∈ before, (answers q).isOk = true) ∧
      answers p = .error cause ∧ e = .upload p.nodeId cause
  pending : (∀ p ∈ pendingUploads nodes, ∀ u, answers p = .ok u → Text.allBlank u.id = false) →
    pendingUploads (last.workflow.refreshed nodes) =
      (pendingUploads nodes).filter fun p => !(answers p).isOk
  execution : ∀ (t : Trigger) (world : World), world.workflow = w →
    t.answerUploads answers
        (t.proceed world (pendingUploads nodes) (pendingUploads nodes).length none)
        (pendingUploads nodes) =
      t.proceed { world with workflow := last.workflow } [] (pendingUploads nodes).length
        last.firstFailure?

/-- Uploads under way at the same time come to the same, whatever the order in which they are sent
and settled. -/
theorem settled_of_run {answers : Answers} {w : Workflow} {nodes : List Node} {last : Uploads}
    (unique : (w.nodes.map Node.id).Nodup) (distinct : (nodes.map Node.id).Nodup)
    (known : ∀ n ∈ nodes, n ∈ w.nodes) (run : Run answers (start w nodes) last)
    (finished : last.Finished) : Settled answers w nodes last := by
  have consistent := (Consistent.of_start answers w nodes).run run
  have slots : ∀ p ∈ pendingUploads nodes, p.slot ∈ ImageSlot.all := fun p =>
    slot_of_mem_pendingUploads
  have places := places_pendingUploads_nodup distinct
  have settled := consistent.slots_of_finished finished
  have there : ∀ p ∈ pendingUploads nodes, (w.node? p.nodeId).isSome := by
    intro p hp
    obtain ⟨n, hn, -, hp⟩ := mem_pendingUploads.1 hp
    rw [(Node.pending?_eq_some hp).1, Workflow.node?_of_mem unique (known n hn)]
    rfl
  have workflow := consistent.workflow_of_finished finished distinct
  refine ⟨places, consistent.issued_of_finished finished, workflow, ?_, ?_,
    fun count => result_eq_ok settled, fun e => result_eq_error settled, ?_, ?_⟩
  · intro p hp u succeeded
    have ne := ImageSlot.idKey_ne_urlKey _ (slots p hp)
    have written {key : String} (hk : key = p.slot.idKey ∨ key = p.slot.urlKey) :=
      Workflow.attribute?_of_succeeded slots places hp (there p hp) succeeded hk
    rw [workflow, written (.inl rfl), written (.inr rfl), PendingUpload.get?_patch,
      PendingUpload.get?_patch, if_neg ne, if_pos rfl, if_pos rfl]
    exact ⟨rfl, rfl⟩
  · intro p hp e failed
    rw [workflow]
    exact ⟨Workflow.attribute?_of_failed slots places hp failed (by simp [ImageSlot.keys]),
      Workflow.attribute?_of_failed slots places hp failed (by simp [ImageSlot.keys])⟩
  · intro filled
    rw [workflow]
    exact Workflow.pendingUploads_refreshed distinct unique known filled
  · intro t world same
    rw [t.answerUploads_proceed, firstFailure?_eq settled, workflow, same]
    rfl

/-- A mask is settled before the image of its node, which fails. -/
theorem settled_mask_before_image :
    let w : Workflow := ⟨"w", "", [⟨"a", "image-source",
      .obj [("imageData", .str "whole"), ("maskData", .str "part")]⟩], []⟩
    let image : PendingUpload := ⟨"a", .image, "whole"⟩
    let mask : PendingUpload := ⟨"a", .mask, "part"⟩
    let answers : Answers := fun p =>
      if p.slot = .mask then .ok ⟨"1", "/1"⟩ else .error (.transport "lost")
    let last : Uploads := ⟨(w.answered answers mask).answered answers image, [image, mask],
      [(image, .settled (answers image)), (mask, .settled (answers mask))]⟩
    ((w.nodes.map Node.id).Nodup ∧ Run answers (start w w.nodes) last ∧ last.Finished) ∧
      Settled answers w w.nodes last := by
  intro w image mask answers last
  have unique : (w.nodes.map Node.id).Nodup := by decide
  have waiting : pendingUploads w.nodes = [image, mask] := by decide +kernel
  have run : Run answers (start w w.nodes) last := by
    rw [start, waiting]
    exact .head (.send w [] [] [(mask, .unsent)] image)
      (.head (.send w [image] [(image, .sent)] [] mask)
        (.head (.settle w [image, mask] [(image, .sent)] [] mask)
          (.single (.settle (w.answered answers mask) [image, mask] []
            [(mask, .settled (answers mask))] image))))
  have finished : last.Finished := by simp [Finished, last, UploadState.isSettled]
  exact ⟨⟨unique, run, finished⟩, settled_of_run unique unique (fun _ hn => hn) run finished⟩

end Uploads

end ImageGraph
