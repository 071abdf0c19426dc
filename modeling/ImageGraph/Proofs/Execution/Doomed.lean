import ImageGraph.Proofs.Execution.Usable

/-! Requests that are refused whatever their uploads bring. An execution uploads first and compiles
then, so it makes all these uploads before it refuses. Only where nothing waits for its upload does
it refuse without a call. -/

namespace ImageGraph

/-- What uploads write that all succeed, each with the reference that it brings. -/
def referenceWrites (uploads : List PendingUpload) (references : List UploadedImage) :
    List Write :=
  (uploads.zip references).map fun p => ⟨p.1.nodeId, p.1.patch p.2⟩

/-- The graph does not compile for an output node, and for the same reason it would not with the
references of all images that wait for their upload. -/
structure World.Doomed (w : World) (output : NodeId) (cause : CompileError) : Prop where
  refused : w.compile output = .error cause
  whatever : ∀ references : List UploadedImage,
    references.length = (w.uploadsFor output).length →
      (w.workflow.write (referenceWrites (w.uploadsFor output) references)).compile w.settings
        output = .error cause

/-- The refusal goes by the ids and the roles of nodes, and by no image. -/
inductive CompileError.ByRole : CompileError → Prop where
  | unknownNode (id : NodeId) : ByRole (.unknownNode id)
  | unsupportedSubtype (id : NodeId) (subtype : String) : ByRole (.unsupportedSubtype id subtype)

/-- The error that an upload failed with. -/
def PendingUpload.failure? (p : PendingUpload) : Interlude → Option ExecutionError
  | ⟨.upload _, _, .error (e : ServiceError), _⟩ => some (.upload p.nodeId e)
  | _ => none

/-- The error of the first upload that failed. -/
def firstFailure? (uploads : List PendingUpload) (seen : List Interlude) :
    Option ExecutionError :=
  (uploads.zip seen).findSome? fun p => p.1.failure? p.2

/-! ### Refusals by role -/

/-- The same id and the same role. -/
structure Node.Alike (n m : Node) : Prop where
  id : n.id = m.id
  role : n.role = m.role

theorem Node.Alike.has {P : Role → Prop} {n m : Node} (h : n.Alike m) : P n.role ↔ P m.role := by
  rw [h.role]

section

variable {found found' : List Node} (related : List.Forall₂ Node.Alike found found')
include related

/-- What no node has in its role, no alike node has. -/
theorem none_alike {P : Role → Prop} (none : ∀ n ∈ found, ¬ P n.role) :
    ∀ m ∈ found', ¬ P m.role := by
  intro m hm
  obtain ⟨n, hn, alike⟩ := exists_related (R := flip Node.Alike) related.flip hm
  exact fun has => none n hn (alike.has.2 has)

theorem FirstWith.alike {P : Role → Prop} {n : Node}
    (first : FirstWith (fun n => P n.role) found n) :
    ∃ m, FirstWith (fun n => P n.role) found' m ∧ n.Alike m := by
  induction related with
  | nil => cases first
  | cons alike _ ih =>
    cases first with
    | here hp => exact ⟨_, .here (alike.has.1 hp), alike⟩
    | later hp first =>
      obtain ⟨m, hm, same⟩ := ih first
      exact ⟨m, .later (fun h => hp (alike.has.2 h)) hm, same⟩

end

/-- A refusal by role stays where ids and roles do. -/
theorem Refusal.alike {nodes nodes' : List Node} {edges edges' : List Edge} {target : NodeId}
    {cause : CompileError} (ids : nodes'.map Node.id = nodes.map Node.id)
    (related : List.Forall₂ Node.Alike (ancestors nodes edges target)
      (ancestors nodes' edges' target))
    (role : cause.ByRole) (h : Refusal nodes edges target cause) :
    Refusal nodes' edges' target cause := by
  have named : (∃ n ∈ nodes', n.id = target) ↔ ∃ n ∈ nodes, n.id = target := by
    simp only [← List.mem_map, ids]
  cases h with
  | unknownNode unknown =>
    refine .unknownNode fun n hn own => ?_
    obtain ⟨m, hm, same⟩ := named.1 ⟨n, hn, own⟩
    exact unknown m hm same
  | @unsupported n subtype first hr =>
    obtain ⟨m, hm, alike⟩ := first.alike (P := fun r => ∃ subtype, r = .unsupported subtype) related
    rw [alike.id]
    exact .unsupported hm (alike.role ▸ hr)
  | flow known supported called refused =>
    cases refused with
    | @unknownControl n name first hr =>
      obtain ⟨m, hm, alike⟩ :=
        first.alike (P := fun r => ∃ name, r = .controlNet (.other name)) related
      rw [alike.id]
      refine .flow (named.2 known)
        (none_alike (P := fun r => ∃ subtype, r = .unsupported subtype) related supported) ?_
        (.unknownControl hm (alike.role ▸ hr))
      cases called with
      | textToImage tools kontexts images =>
        exact .textToImage (none_alike (P := fun r => ∃ t, r = .tool t) related tools)
          (none_alike (P := fun r => ∃ k, r = .kontext k) related kontexts)
          (none_alike (P := fun r => r = .imageToImage) related images)
    | _ => cases role

theorem referenceWrites_within (uploads : List PendingUpload) (references : List UploadedImage) :
    ∀ x ∈ referenceWrites uploads references, x.Within (Referred uploads) := by
  intro x hx
  obtain ⟨⟨p, u⟩, hp, rfl⟩ := List.mem_map.1 hx
  exact p.patch_within u fun key written => ⟨p, (List.of_mem_zip hp).1, rfl, written⟩

/-- A refusal by role is the same whatever uploads bring. -/
theorem World.Doomed.of_byRole {w : World} {output : NodeId} {cause : CompileError}
    (role : cause.ByRole) (refused : w.compile output = .error cause) :
    w.Doomed output cause := by
  refine ⟨refused, fun references _ => ?_⟩
  have written := Workflow.Written.of_writes (w := w.workflow)
    (referenceWrites_within (w.uploadsFor output) references)
  refine (compile_eq_error_iff _).2 ?_
  refine Refusal.alike ?_ ?_ role ((compile_eq_error_iff _).1 refused)
  · exact (map_related written.nodes fun _ _ changed => changed.id).symm
  · refine (written.ancestors output).imp fun n m changed => ?_
    have agree := changed.agreeOn fun _ => slot_of_mem_pendingUploads
    exact ⟨changed.id, agree.role (by simp) (by simp) (by simp)⟩

/-! ### Failures of uploads -/

theorem firstFailure?_cons (p : PendingUpload) (uploads : List PendingUpload) (i : Interlude)
    (seen : List Interlude) :
    firstFailure? (p :: uploads) (i :: seen) =
      (p.failure? i).or (firstFailure? uploads seen) := by
  rw [firstFailure?, List.zip_cons_cons, List.findSome?_cons]
  cases p.failure? i <;> rfl

namespace Sent

variable {w : World} {uploads : List PendingUpload} {sent : List Interlude}

theorem firstFailure?_eq_none (h : Sent w uploads sent) :
    firstFailure? uploads sent = none ↔ ∀ i ∈ sent, i.Succeeded := by
  induction h with
  | nil => simp [firstFailure?]
  | @cons w u uploads i sent call _ _ ih =>
    have here : u.failure? i = none ↔ i.Succeeded := by
      obtain ⟨c, before, answer, found⟩ := i
      obtain rfl : c = u.call := call
      cases answer with
      | error e => exact iff_of_false (Option.some_ne_none _) Bool.false_ne_true
      | ok image => exact iff_of_true rfl rfl
    rw [firstFailure?_cons, Option.or_eq_none_iff, here, ih, List.forall_mem_cons]

/-- Uploads that all succeed write one reference each. -/
theorem exists_references (h : Sent w uploads sent) (succeeded : ∀ i ∈ sent, i.Succeeded) :
    ∃ references : List UploadedImage, references.length = uploads.length ∧
      uploadWrites uploads sent = referenceWrites uploads references := by
  induction h with
  | nil => exact ⟨[], rfl, rfl⟩
  | @cons w u uploads i sent call _ _ ih =>
    obtain ⟨here, later⟩ := List.forall_mem_cons.1 succeeded
    obtain ⟨references, one_each, same⟩ := ih later
    obtain ⟨c, before, answer, found⟩ := i
    obtain rfl : c = u.call := call
    cases answer with
    | error => cases here
    | ok image =>
      refine ⟨image :: references, congrArg (· + 1) one_each, ?_⟩
      rw [uploadWrites_cons, same]
      rfl

end Sent

namespace Course

variable {t : Trigger} {trace : Trace} {result : Except ExecutionError Record} {stop : World}

/-- The first failure is what an execution returns, but not before it has made all uploads. -/
theorem upload_failure {w : World} {uploads : List PendingUpload} {total : Nat}
    {failure : Option ExecutionError} {cause : ExecutionError}
    (course : Course t (t.proceed w uploads total failure) trace result stop)
    (failed : failure.or (firstFailure? uploads trace.interludes) = some cause) :
    result = .error cause := by
  induction uploads generalizing w failure trace with
  | nil =>
    obtain rfl : failure = some cause := by simpa [firstFailure?] using failed
    exact course.fail_result w none cause
  | cons u uploads ih =>
    obtain ⟨answer, found, tail, rfl, later⟩ := course.of_waiting rfl
    rw [Trace.interludes_turn, firstFailure?_cons, ← Option.or_assoc] at failed
    cases answer with
    | ok image =>
      change (failure.or none).or (firstFailure? uploads (Trace.interludes tail)) =
        some cause at failed
      rw [Option.or_none] at failed
      exact ih later failed
    | error e => cases failure <;> exact ih later failed

/-- Where a failed upload or the graph forbids to go on, the uploads were all. -/
theorem refused {w : World} {uploads : List PendingUpload} {failure : Option ExecutionError}
    {cause : CompileError}
    (course : Course t (t.proceed w [] uploads.length failure) trace result stop)
    (refuses : failure = none → w.compile t.output = .error cause) :
    trace.interludes = [] ∧ result = .error (failure.getD (.compilation cause)) ∧
      stop.store = w.store := by
  have ends {trace : Trace} {e : ExecutionError}
      (course : Course t (t.fail w none e) trace result stop) :
      trace.interludes = [] ∧ result = .error e ∧ stop.store = w.store := by
    obtain ⟨rfl, rfl, rfl⟩ := course.of_returned rfl
    rw [t.fail_world, World.leave_store]
    exact ⟨rfl, rfl, rfl⟩
  cases failure with
  | some e => exact ends course
  | none =>
    obtain ⟨last, same, prepared⟩ := course.of_proceed_done
    rw [Trigger.prepare_error (refuses rfl)] at prepared
    rw [same]
    exact ends prepared

end Course

/-- What is doomed is refused as it is when all uploads have succeeded and nobody else wrote. -/
theorem World.Doomed.refuses {w entered : World} {output : NodeId} {cause : CompileError}
    {sent : List Interlude} (doomed : w.Doomed output cause) (h : w.enter? output = some entered)
    (linked : Sent entered (w.uploadsFor output) sent) (succeeded : ∀ i ∈ sent, i.Succeeded)
    (still : ∀ i ∈ sent, i.Still) :
    (entered.settled (w.uploadsFor output) sent).compile output = .error cause := by
  obtain ⟨references, one_each, same⟩ := linked.exists_references succeeded
  have refused := (compile_eq_error_iff _).1 (doomed.whatever references one_each)
  have written := (linked.still still).1
  obtain ⟨inFlight, rfl⟩ := World.enter?_eq_some h
  rw [World.compile, Workflow.compile, written, same]
  exact (compile_eq_error_iff _).2 refused

private theorem eq_error_of_map {α β ε : Type} {x : Except ε α} {f : α → β} {e : ε}
    (h : x.map f = .error e) : x = .error e := by
  cases x with
  | error => exact congrArg _ (Except.error.inj h)
  | ok => cases h

namespace Surroundings

variable {σ : Type}

/-- An execution that is bound to be refused makes no call but its uploads, unless something else
happens meanwhile. It returns the failure of the first upload that failed, or the refusal if none
did, and makes no record. -/
theorem execute_refused (e : Surroundings σ) {output : NodeId} {w entered : World} (s : σ)
    {cause : CompileError} (h : w.enter? output = some entered) (doomed : w.Doomed output cause)
    (still : ∀ i ∈ (e.trace output w s).interludes.take (w.uploadsFor output).length, i.Still) :
    let seen := (e.trace output w s).interludes
    seen.map Interlude.call = (w.uploadsFor output).map PendingUpload.call ∧
      (e.execute output w s).1 =
        .error ((firstFailure? (w.uploadsFor output) seen).getD (.compilation cause)) ∧
      (e.execute output w s).2.1.store = w.store := by
  intro seen
  obtain ⟨linked, rest, failure, tail, sound, course⟩ := (e.execute_observed output w s).2.uploads h
  obtain ⟨none_left, result, store⟩ := course.refused fun none =>
    doomed.refuses h linked (sound.1 none) still
  have all : seen.take (w.uploadsFor output).length = seen := by
    rw [none_left, World.afterUploads, eq_comm] at tail
    rw [← List.append_nil (seen.take _), ← tail, List.take_append_drop]
  rw [(linked.still still).2] at store
  rw [all] at linked sound
  refine ⟨linked.calls, ?_, ?_⟩
  · cases first : firstFailure? (w.uploadsFor output) seen with
    | none =>
      rw [sound.2 (linked.firstFailure?_eq_none.1 first)] at result
      exact result
    | some failed =>
      have whole := (e.execute_observed output w s).2
      rw [World.trigger_entered h] at whole
      obtain ⟨later, started, begun⟩ := whole.of_after
      have same : seen = later.interludes := by
        change (e.trace output w s).interludes = _
        rw [started, Trace.interludes_append, Trace.interludes_last, List.nil_append]
      exact begun.upload_failure (same ▸ first)
  · obtain ⟨inFlight, rfl⟩ := World.enter?_eq_some h
    exact store

/-- An execution that is bound to be refused makes all its uploads first, so it is refused without
a call just if nothing waits for its upload. Where nobody else writes it makes no other call. It
returns the failure of the first upload that failed, or the refusal if none did, and makes no
record. -/
theorem execute_doomed (e : Surroundings σ) {output : NodeId} {w : World} (s : σ)
    {cause : CompileError} (entered : (w.enter? output).isSome) (doomed : w.Doomed output cause) :
    let seen := (e.trace output w s).interludes
    let uploads := w.uploadsFor output
    (uploads.map PendingUpload.call).IsPrefix (seen.map Interlude.call) ∧
      (seen = [] ↔ uploads = []) ∧
      (uploads = [] → (e.execute output w s).1 = .error (.compilation cause)) ∧
      (e.Still → seen.map Interlude.call = uploads.map PendingUpload.call ∧
        (e.execute output w s).1 =
          .error ((firstFailure? uploads seen).getD (.compilation cause)) ∧
        (e.execute output w s).2.1.store = w.store) := by
  intro seen uploads
  obtain ⟨entered, h⟩ := Option.isSome_iff_exists.1 entered
  have calls := ((e.execute_observed output w s).2.uploads h).1.calls
  have unsent (none : uploads = []) :
      seen = [] ∧ (e.execute output w s).1 = .error (.compilation cause) := by
    have still : ∀ i ∈ seen.take uploads.length, i.Still := by simp [none]
    obtain ⟨calls, result, -⟩ := e.execute_refused s h doomed still
    rw [show w.uploadsFor output = [] from none] at calls result
    exact ⟨List.map_eq_nil_iff.1 calls, result⟩
  refine ⟨?_, ⟨fun quiet => ?_, fun none => (unsent none).1⟩, fun none => (unsent none).2,
    fun still => e.execute_refused s h doomed fun i hi =>
      still.of_mem output w s i (List.mem_of_mem_take hi)⟩
  · rw [← calls, List.map_take]
    exact List.take_prefix _ _
  · rw [show (e.trace output w s).interludes = [] from quiet, List.take_nil, List.map_nil,
      eq_comm, List.map_eq_nil_iff] at calls
    exact calls

/-- A control-net of an unknown kind, and nothing to upload. -/
theorem execute_doomed_quiet :
    let w : World := {
      settings := {}
      workflow := ⟨"flow", "", [⟨"out", "output", .null⟩, ⟨"odd", "control-net-tiles", .null⟩],
        [⟨"1", "odd", "out"⟩]⟩
      recordName := toString }
    let e : Surroundings Unit := {
      answer _ w s := (.error (.transport "down"), w, s)
      publish _ s := (.ok (), s) }
    w.Doomed "out" (.unsupportedSubtype "odd" "tiles") ∧
      (e.trace "out" w ()).interludes = [] ∧
      (e.execute "out" w ()).1 = .error (.compilation (.unsupportedSubtype "odd" "tiles")) := by
  intro w e
  have doomed : w.Doomed "out" (.unsupportedSubtype "odd" "tiles") :=
    .of_byRole (.unsupportedSubtype ..) (eq_error_of_map (f := fun _ => ()) (by decide +kernel))
  have uploads : w.uploadsFor "out" = [] := by decide +kernel
  obtain ⟨-, quiet, refused, -⟩ := e.execute_doomed () rfl doomed
  exact ⟨doomed, quiet.2 uploads, refused uploads⟩

/-- A node of an unsupported kind, and a photo that is uploaded all the same. -/
theorem upload_before_refusal :
    let w : World := {
      settings := {}
      workflow := ⟨"flow", "", [⟨"out", "output", .null⟩,
          ⟨"photo", "image-source", .obj [("imageData", .str "pixels")]⟩,
          ⟨"odd", "tool-foo", .null⟩],
        [⟨"1", "photo", "out"⟩, ⟨"2", "odd", "out"⟩]⟩
      recordName := toString }
    let e : Surroundings Unit := {
      answer c w s := match c with
        | .upload _ => (.ok ⟨"1", "/1"⟩, w, s)
        | _ => (.error (.transport "down"), w, s)
      publish _ s := (.ok (), s) }
    w.Doomed "out" (.unsupportedSubtype "odd" "tool-foo") ∧
      (e.trace "out" w ()).interludes.map Interlude.call = [.upload "pixels"] := by
  intro w e
  have still : e.Still := fun c w s => by cases c <;> exact ⟨rfl, rfl⟩
  have doomed : w.Doomed "out" (.unsupportedSubtype "odd" "tool-foo") :=
    .of_byRole (.unsupportedSubtype ..) (eq_error_of_map (f := fun _ => ()) (by decide +kernel))
  have uploads : w.uploadsFor "out" = [⟨"photo", .image, "pixels"⟩] := by decide +kernel
  have calls := (e.execute_refused () rfl doomed fun i hi =>
    still.of_mem "out" w () i (List.mem_of_mem_take hi)).1
  rw [uploads] at calls
  exact ⟨doomed, calls⟩

end Surroundings

end ImageGraph
