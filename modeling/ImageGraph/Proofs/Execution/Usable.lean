import ImageGraph.Proofs.Execution.Frame
import ImageGraph.Proofs.Request.Refusal
import ImageGraph.Proofs.Upload.Reference

/-! Uploads make local images usable. Where every upload succeeds, no image of an ancestor waits any
longer when the request is compiled, and every image that was held as data has a reference. So an
execution does not miss an image that a candidate holds. -/

namespace ImageGraph

open Json

/-- An upload that brought an identifier to refer to. -/
def Interlude.Delivers (i : Interlude) : Prop :=
  ∃ u, i.uploaded? = some u ∧ Text.allBlank u.id = false

/-- No image of the node waits for its upload, and those held as data have a reference. -/
structure Node.Usable (n : Node) : Prop where
  settled : ∀ slot ∈ ImageSlot.all, n.pending? slot = none
  image : (n.text? "imageData").isSome → n.image?.isSome
  mask : (n.text? "maskData").isSome → n.mask?.isSome

theorem Node.Usable.of_settled {n : Node} (h : ∀ slot ∈ ImageSlot.all, n.pending? slot = none) :
    n.Usable := by
  have reference : ∀ slot ∈ ImageSlot.all, (n.text? slot.dataKey).isSome →
      (n.remote? slot.urlKey slot.idKey).isSome := by
    intro slot hs data
    rw [Option.isSome_iff_ne_none]
    intro none
    have awaits : n.Awaits slot := (awaits_iff hs).2 ⟨(remote?_eq_none_iff.1 none).1, data⟩
    obtain ⟨p, hp, rfl⟩ := awaits
    obtain ⟨m, hm, -, waits⟩ := mem_pendingUploads.1 hp
    rw [List.mem_singleton.1 hm, h _ hs] at waits
    cases waits
  exact ⟨h, reference .image (by decide), reference .mask (by decide)⟩

/-! ### The workflow after the uploads -/

section

variable {uploads : List PendingUpload} {sent : List Interlude}

/-- What uploads write that all succeed is what their answers leave. -/
theorem exists_answers (once : uploads.Nodup) (one_each : sent.length = uploads.length)
    (delivered : ∀ i ∈ sent, i.Delivers) :
    ∃ answers : Answers,
      (∀ p ∈ uploads, ∃ u, answers p = .ok u ∧ Text.allBlank u.id = false) ∧
      ∀ w : Workflow, w.write (uploadWrites uploads sent) = w.answeredAll answers uploads := by
  induction uploads generalizing sent with
  | nil =>
    cases List.eq_nil_of_length_eq_zero one_each
    exact ⟨fun _ => .error (.transport ""), by simp, fun _ => rfl⟩
  | cons p rest ih =>
    cases sent with
    | nil => cases one_each
    | cons i sent =>
      obtain ⟨fresh, once⟩ := List.nodup_cons.1 once
      obtain ⟨⟨u, brought, filled⟩, delivered⟩ := List.forall_mem_cons.1 delivered
      obtain ⟨answers, succeeded, same⟩ := ih once (Nat.succ.inj one_each) delivered
      -- No upload comes twice, so the answer of this one can be set without changing the others.
      have own : Function.update answers p (.ok u) p = .ok u := Function.update_self ..
      have other : ∀ q ∈ rest, Function.update answers p (.ok u) q = answers q := by
        intro q hq
        have apart : q ≠ p := fun same => fresh (same ▸ hq)
        exact Function.update_of_ne apart ..
      refine ⟨Function.update answers p (.ok u), ?_, fun w => ?_⟩
      · refine List.forall_mem_cons.2 ⟨⟨u, own, filled⟩, fun q hq => ?_⟩
        rw [other q hq]
        exact succeeded q hq
      · have written : uploadWrites [p] [i] = [⟨p.nodeId, p.patch u⟩] := by
          simp [uploadWrites, brought]
        have here : w.write (uploadWrites [p] [i]) =
            w.answered (Function.update answers p (.ok u)) p := by
          rw [written, Workflow.answered, own]
          rfl
        rw [uploadWrites_cons, Workflow.write_append, here, same]
        refine List.foldl_ext _ _ _ fun w q hq => ?_
        rw [Workflow.answered, Workflow.answered, other q hq]

/-- The attributes that uploads write. -/
def Referred (uploads : List PendingUpload) (id : NodeId) (key : String) : Prop :=
  ∃ p ∈ uploads, p.nodeId = id ∧ (key = p.slot.idKey ∨ key = p.slot.urlKey)

theorem written_uploads (uploads : List PendingUpload) (sent : List Interlude) (w : Workflow) :
    w.Written (Referred uploads) (w.write (uploadWrites uploads sent)) :=
  .of_writes (uploadWrites_within fun p hp _ hk => ⟨p, hp, rfl, hk⟩)

/-- Uploads leave roles and local data alone. -/
theorem Node.Written.agreeOn {n m : Node} {id : NodeId}
    (slots : ∀ p ∈ uploads, p.slot ∈ ImageSlot.all) (h : n.Written (Referred uploads id) m) :
    n.AgreeOn ["role", "subtype", "polarity", "imageData"] m := by
  refine ⟨h.id, h.kind, fun key hk => h.kept key ?_⟩
  rintro ⟨p, hp, -, written⟩
  have apart : ∀ slot ∈ ImageSlot.all, ∀ key ∈ ["role", "subtype", "polarity", "imageData"],
      ¬ (key = slot.idKey ∨ key = slot.urlKey) := by
    decide
  exact apart _ (slots p hp) key hk written

end

section

variable {w : Workflow} {target : NodeId} {sent : List Interlude}
  (one_each : sent.length = (pendingUploads (ancestors w.nodes w.edges target)).length)
  (delivered : ∀ i ∈ sent, i.Delivers)
include one_each delivered

/-- When all uploads have succeeded, the nodes that they were for have nothing left to upload. -/
theorem refreshed_settled (unique : (w.nodes.map Node.id).Nodup) :
    let found := ancestors w.nodes w.edges target
    pendingUploads ((w.write (uploadWrites (pendingUploads found) sent)).refreshed found) = [] := by
  intro found
  have distinct : (found.map Node.id).Nodup := nodup_search w.nodes w.edges [] [target]
  have known : ∀ n ∈ found, n ∈ w.nodes := fun n hn => nodeNamed?_mem (nodeNamed?_of_mem_search hn)
  obtain ⟨answers, succeeded, same⟩ :=
    exists_answers (places_pendingUploads_nodup distinct).of_map one_each delivered
  have filled : ∀ p ∈ pendingUploads found, ∀ u, answers p = .ok u →
      Text.allBlank u.id = false := by
    intro p hp u hu
    obtain ⟨v, hv, filled⟩ := succeeded p hp
    cases hu.symm.trans hv
    exact filled
  rw [same, Workflow.pendingUploads_refreshed distinct unique known filled, List.filter_eq_nil_iff]
  intro p hp
  obtain ⟨u, hu, -⟩ := succeeded p hp
  rw [hu]
  exact Bool.false_ne_true

/-- When all uploads have succeeded, no ancestor has anything left to upload. -/
theorem usable_ancestors (unique : (w.nodes.map Node.id).Nodup) :
    let w' := w.write (uploadWrites (pendingUploads (ancestors w.nodes w.edges target)) sent)
    ∀ n ∈ ancestors w'.nodes w'.edges target, n.Usable := by
  intro w' n hn
  have written := written_uploads (pendingUploads (ancestors w.nodes w.edges target)) sent w
  have ids : w.nodes.map Node.id = w'.nodes.map Node.id :=
    map_related written.nodes fun _ _ changed => changed.id
  have there : w'.node? n.id = some n := node?_of_mem_ancestors (ids ▸ unique) hn
  have refreshed : n ∈ w'.refreshed (ancestors w.nodes w.edges target) := by
    have mem : n.id ∈ (ancestors w.nodes w.edges target).map Node.id := by
      rw [written.ids_ancestors]
      exact List.mem_map_of_mem hn
    obtain ⟨old, ho, id⟩ := List.mem_map.1 mem
    exact List.mem_filterMap.2 ⟨old, ho, id ▸ there⟩
  refine .of_settled fun slot hs => ?_
  cases waits : n.pending? slot with
  | none => rfl
  | some p =>
    obtain ⟨-, rfl⟩ := Node.pending?_eq_some waits
    have left := mem_pendingUploads.2 ⟨n, refreshed, hs, waits⟩
    rw [refreshed_settled one_each delivered unique] at left
    cases left

end

/-- A candidate whose image was held as data has one to offer after the uploads. -/
theorem Candidate.offers {w w' : Workflow} {uploads : List PendingUpload} {target : NodeId}
    {n : Node} (h : Candidate (ancestors w.nodes w.edges target) target n)
    (data : (n.text? "imageData").isSome) (slots : ∀ p ∈ uploads, p.slot ∈ ImageSlot.all)
    (written : w.Written (Referred uploads) w')
    (usable : ∀ m ∈ ancestors w'.nodes w'.edges target, m.Usable) :
    ¬ NoBaseImage (ancestors w'.nodes w'.edges target) target := by
  obtain ⟨m, hm, changed⟩ := exists_related (written.ancestors target) h.mem
  have agree := changed.agreeOn slots
  have role : n.role = m.role := agree.role (by simp) (by simp) (by simp)
  have candidate : Candidate (ancestors w'.nodes w'.edges target) target m :=
    ⟨hm, agree.id ▸ h.other, role ▸ h.role⟩
  rw [agree.text? (by simp)] at data
  intro none
  have image := (usable m hm).image data
  rw [none m candidate] at image
  cases image

/-! ### What an execution fails for -/

namespace Course

variable {t : Trigger} {turn : Turn} {trace : Trace} {result : Except ExecutionError Record}
  {stop found : World} {cause : CompileError}

theorem fail_result (w : World) (had : Option RecordId) (e : ExecutionError)
    (course : Course t (t.fail w had e) trace result stop) : result = .error e :=
  (course.of_returned rfl).2.1

theorem main_compiled {id : RecordId} {main : MainStep}
    {answer : (Stage.generating id main).call.Answer}
    (course : Course t (t.resume found (.generating id main) answer) trace result stop) :
    result ≠ .error (.compilation cause) := by
  cases answer with
  | error e =>
    simp [course.fail_result found (some id) (.ofMainCall e), ExecutionError.ofMainCall]
  | ok response =>
    cases ho : Output.ofResponse response with
    | error e =>
      rw [Trigger.resume_unread ho] at course
      simp [course.fail_result _ _ _, ExecutionError.ofMainCall]
    | ok image =>
      rw [Trigger.resume_read ho] at course
      cases hm : found.store.mark (.succeeded response) found.now id with
      | error e =>
        rw [Trigger.succeed_error hm] at course
        simp [course.fail_result _ _ _]
      | ok p =>
        rw [Trigger.succeed_ok hm] at course
        simp [(course.of_returned rfl).2.1]

/-- What has been compiled fails for other reasons. -/
theorem run_compiled {id : RecordId} {steps : List PreprocessStep} {main : MainStep}
    (course : Course t turn trace result stop)
    (hp : turn.progress = .waiting (Trigger.next id steps main)) :
    result ≠ .error (.compilation cause) := by
  induction steps generalizing main turn trace with
  | nil =>
    obtain ⟨answer, found, rest, rfl, later⟩ := course.of_waiting hp
    exact later.main_compiled
  | cons step rest ih =>
    obtain ⟨answer, found, tail, rfl, later⟩ := course.of_waiting hp
    cases answer with
    | error e =>
      simp [later.fail_result found (some id) (.preprocessing step.nodeId e)]
    | ok url => exact ih later rfl

theorem prepare_cause {w : World}
    (course : Course t (t.prepare w) trace (.error (.compilation cause)) stop) :
    w.compile t.output = .error cause := by
  cases hc : w.compile t.output with
  | error e =>
    rw [Trigger.prepare_error hc] at course
    cases course.fail_result _ _ _
    rfl
  | ok request =>
    rw [Trigger.prepare_ok hc] at course
    exact absurd rfl (course.run_compiled rfl)

section

variable {output : NodeId} {w entered : World} (h : w.enter? output = some entered)
  (delivered : ∀ i ∈ trace.interludes.take (w.uploadsFor output).length, i.Delivers)
include h delivered

/-- Where all uploads succeed, the ancestors of an execution that is let in are usable after
them. -/
theorem usable (course : Course ⟨w.workflow.id, output⟩ (w.trigger output) trace result stop)
    (still : ∀ i ∈ trace.interludes, i.Still) (unique : (w.workflow.nodes.map Node.id).Nodup) :
    let left := (w.uploaded output trace.interludes).workflow
    ∀ n ∈ ancestors left.nodes left.edges output, n.Usable := by
  rw [(course.writes h still).1]
  exact usable_ancestors (course.uploads h).1.length delivered unique

/-- Where all uploads succeed, an execution that is not compiled fails for the workflow that they
leave. -/
theorem uploaded_cause
    (course : Course ⟨w.workflow.id, output⟩ (w.trigger output) trace
      (.error (.compilation cause)) stop) :
    (w.uploaded output trace.interludes).compile output = .error cause := by
  obtain ⟨-, rest, failure, -, succeeded, later⟩ := course.uploads h
  obtain rfl : failure = none := succeeded.2 fun i hi => by
    obtain ⟨u, brought, -⟩ := delivered i hi
    exact Interlude.succeeded_of_uploaded? brought
  rw [Trigger.proceed_done] at later
  obtain ⟨tail, -, prepared⟩ := later.of_after
  rw [World.uploaded, ← (World.settled_entered h _ _).2]
  exact prepared.prepare_cause

/-- An execution whose uploads all succeed is not refused for want of a base image that a candidate
holds as data. -/
theorem base_offered
    (course : Course ⟨w.workflow.id, output⟩ (w.trigger output) trace
      (.error (.compilation cause)) stop)
    (still : ∀ i ∈ trace.interludes, i.Still) (unique : (w.workflow.nodes.map Node.id).Nodup)
    {n : Node} (candidate : Candidate (ancestors w.workflow.nodes w.workflow.edges output) output n)
    (data : (n.text? "imageData").isSome) :
    (∀ flow, cause ≠ .missingBaseImage flow) ∧ ∀ subtype, cause ≠ .missingImages subtype := by
  have refused := (compile_eq_error_iff _).1 (course.uploaded_cause h delivered)
  have written := written_uploads (w.uploadsFor output)
    (trace.interludes.take (w.uploadsFor output).length) w.workflow
  rw [← (course.writes h still).1] at written
  have offered := candidate.offers data (fun _ => slot_of_mem_pendingUploads) written
    (course.usable h delivered still unique)
  exact ⟨fun flow missing => offered (refused.noBaseImage (.inl ⟨flow, missing⟩)),
    fun subtype missing => offered (refused.noBaseImage (.inr ⟨subtype, missing⟩))⟩

end

end Course

namespace Surroundings

variable {σ : Type} {e : Surroundings σ}

/-- Surroundings in which every upload brings an identifier, and that leave workflow and records
alone meanwhile. -/
structure Delivers (e : Surroundings σ) : Prop where
  still : e.Still
  upload : ∀ data w s, ∃ u : UploadedImage,
    (e.answer (.upload data) w s).1 = .ok u ∧ Text.allBlank u.id = false

theorem Delivers.of_mem (delivers : e.Delivers) {output : NodeId} {w : World} {s : σ}
    {i : Interlude} (hi : i ∈ (e.trace output w s).interludes) {data : String}
    (call : i.call = .upload data) : i.Delivers := by
  refine of_mem_interludes (P := fun i => i.call = .upload data → i.Delivers) ?_ hi call
  rintro c w s rfl
  obtain ⟨u, answered, filled⟩ := delivers.upload data w s
  refine ⟨u, ?_, filled⟩
  rw [answered]
  rfl

theorem Delivers.of_sent (delivers : e.Delivers) {output : NodeId} {w entered : World} (s : σ)
    (h : w.enter? output = some entered) :
    ∀ i ∈ (e.trace output w s).interludes.take (w.uploadsFor output).length, i.Delivers := by
  intro i hi
  have linked := ((e.execute_observed output w s).2.uploads h).1
  have called : i.call ∈ (w.uploadsFor output).map PendingUpload.call := by
    rw [← linked.calls]
    exact List.mem_map_of_mem hi
  obtain ⟨p, -, call⟩ := List.mem_map.1 called
  exact delivers.of_mem (List.mem_of_mem_take hi) call.symm

/-- Where all uploads succeed and bring identifiers, nothing is left to upload after them and every
image held as data has a reference. So no execution fails for want of an image that an ancestor of
its output holds, other than in a role whose images are no base. -/
theorem execute_usable (delivers : e.Delivers) {output : NodeId} {w : World} (s : σ)
    (unique : (w.workflow.nodes.map Node.id).Nodup) :
    let seen := (e.trace output w s).interludes
    let left := (w.uploaded output seen).workflow
    ((w.enter? output).isSome →
      (seen.take (w.uploadsFor output).length).map Interlude.call =
          (w.uploadsFor output).map PendingUpload.call ∧
        ∀ n ∈ ancestors left.nodes left.edges output, n.Usable) ∧
    ((∃ n, Candidate (ancestors w.workflow.nodes w.workflow.edges output) output n ∧
        (n.text? "imageData").isSome) →
      ∀ cause, (e.execute output w s).1 = .error (.compilation cause) →
        (∀ flow, cause ≠ .missingBaseImage flow) ∧ ∀ subtype, cause ≠ .missingImages subtype) := by
  intro seen left
  have course := (e.execute_observed output w s).2
  have still := delivers.still.of_mem output w s
  cases he : w.enter? output with
  | none =>
    refine ⟨fun entered => absurd entered Bool.false_ne_true, fun _ cause failed => ?_⟩
    rw [World.trigger_rejected he] at course
    cases failed.symm.trans (course.of_returned rfl).2.1
  | some entered =>
    have delivered := delivers.of_sent s he
    refine ⟨fun _ => ⟨(course.uploads he).1.calls, course.usable he delivered still unique⟩, ?_⟩
    rintro ⟨n, candidate, data⟩ cause failed
    rw [failed] at course
    exact course.base_offered he delivered still unique candidate data

/-- A photo that is held as data only is uploaded and blended. -/
theorem execute_usable_remix :
    let w : World := {
      settings := {}
      workflow := ⟨"flow", "", [⟨"out", "output", .null⟩, ⟨"blend", "kontext-remix", .null⟩,
          ⟨"photo", "image-source", .obj [("imageData", .str "pixels")]⟩],
        [⟨"1", "blend", "out"⟩, ⟨"2", "photo", "blend"⟩]⟩
      recordName := toString }
    let e : Surroundings Unit := {
      answer c w s := match c with
        | .upload data => (.ok ⟨"id", data⟩, w, s)
        | _ => (.error (.transport "down"), w, s)
      publish _ s := (.ok (), s) }
    let left := (w.uploaded "out" (e.trace "out" w ()).interludes).workflow
    e.Delivers ∧ (w.workflow.nodes.map Node.id).Nodup ∧
      (∀ n ∈ ancestors left.nodes left.edges "out", n.Usable) ∧
      (∃ n, Candidate (ancestors w.workflow.nodes w.workflow.edges "out") "out" n ∧
        (n.text? "imageData").isSome) ∧
      ∀ subtype, (e.execute "out" w ()).1 ≠ .error (.compilation (.missingImages subtype)) := by
  intro w e left
  have still : e.Still := fun c w s => by cases c <;> exact ⟨rfl, rfl⟩
  have filled : Text.allBlank "id" = false := by decide +kernel
  have delivers : e.Delivers := ⟨still, fun data w s => ⟨⟨"id", data⟩, rfl, filled⟩⟩
  have unique : (w.workflow.nodes.map Node.id).Nodup := by decide
  have photo : Reaches w.workflow.nodes w.workflow.edges "out" "photo" :=
    .step ⟨_, .head _, rfl⟩ ⟨_, .head _, rfl, rfl⟩
      (.step ⟨_, .tail _ (.head _), rfl⟩ ⟨_, .tail _ (.head _), rfl, rfl⟩
        (.self ⟨_, .tail _ (.tail _ (.head _)), rfl⟩))
  have candidate : ∃ n, Candidate (ancestors w.workflow.nodes w.workflow.edges "out") "out" n ∧
      (n.text? "imageData").isSome :=
    ⟨_, ⟨(mem_ancestors_iff_of_unique unique).2 ⟨.tail _ (.tail _ (.head _)), photo⟩, by decide,
      by decide +kernel⟩, by decide +kernel⟩
  obtain ⟨usable, never⟩ := execute_usable delivers () unique
  refine ⟨delivers, unique, (usable rfl).2, candidate, fun subtype failed => ?_⟩
  exact (never candidate _ failed).2 subtype rfl

end Surroundings

end ImageGraph
