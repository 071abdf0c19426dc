import ImageGraph.Proofs.Execution.Frame

/-! What a node says of the generation that it shows. A success writes all that there is to say, and
removes an identifier that the image does not have; a seed, a prompt or a flag that it does not have
stays as an earlier image left it. -/

namespace ImageGraph

open Json

/-- What there is to say of an image and its record, by attribute; nothing for what the image does
not have. -/
def Output.attributes (o : Output) (record : RecordId) : List (String × Option Json) :=
  [("imageUrl", some (.str o.imageUrl)), ("imageId", o.imageId.map .str),
    ("generationId", some (.str record)), ("seed", o.seed.map ofInt64),
    ("prompt", o.prompt.map .str), ("nsfw", o.nsfw.map .bool)]

/-- The attributes that a success leaves alone where there is nothing to say. -/
def lastingKeys : List String :=
  ["seed", "prompt", "nsfw"]

/-- A node describes one generation: it says what there is to say of it and nothing else. -/
def Node.Describes (n : Node) (o : Output) (record : RecordId) : Prop :=
  ∀ p ∈ o.attributes record, n.attribute? p.1 = p.2

/-- A node after a success, and what it was before. -/
structure Node.Shows (old n : Node) (o : Output) (record : RecordId) : Prop where
  attributes : ∀ p ∈ o.attributes record,
    n.attribute? p.1 = if p.1 ∈ lastingKeys then p.2 <|> old.attribute? p.1 else p.2
  describes : n.Describes o record ↔
    ∀ p ∈ o.attributes record, p.1 ∈ lastingKeys → p.2 = none → old.attribute? p.1 = none

theorem Output.attribute?_merge_patch (o : Output) (record : RecordId) (old : Node) :
    ∀ p ∈ o.attributes record, (old.merge (o.patch record)).attribute? p.1 =
      if p.1 ∈ lastingKeys then p.2 <|> old.attribute? p.1 else p.2 := by
  simp only [attributes, List.forall_mem_cons, Node.attribute?_merge, patch]
  refine ⟨?_, ?_, ?_, ?_, ?_, ?_, by simp⟩
  · simp [lastingKeys, patchedValue, isNull]
  · cases o.imageId <;> simp [lastingKeys, patchedValue, isNull, ofOption]
  · simp [lastingKeys, patchedValue, isNull]
  · cases o.seed <;> simp [lastingKeys, patchedValue, isNull, ofInt64]
  · cases o.prompt <;> simp [lastingKeys, patchedValue, isNull]
  · cases o.nsfw <;> simp [lastingKeys, patchedValue, isNull]

namespace Node.Shows

variable {old mid n : Node} {o : Output} {record : RecordId}

theorem of_attributes (h : ∀ p ∈ o.attributes record,
    n.attribute? p.1 = if p.1 ∈ lastingKeys then p.2 <|> old.attribute? p.1 else p.2) :
    old.Shows n o record := by
  refine ⟨h, forall₂_congr fun p hp => ?_⟩
  rw [h p hp]
  by_cases lasts : p.1 ∈ lastingKeys
  · rw [if_pos lasts]
    cases p.2 <;> simp [lasts]
  · simp [lasts]

theorem of_merge (o : Output) (record : RecordId) (old : Node) :
    old.Shows (old.merge (o.patch record)) o record :=
  of_attributes (o.attribute?_merge_patch record old)

theorem of_kept (h : mid.Shows n o record)
    (kept : ∀ key ∈ lastingKeys, old.attribute? key = mid.attribute? key) :
    old.Shows n o record := by
  refine of_attributes fun p hp => ?_
  rw [h.attributes p hp]
  split
  · rename_i lasts
    rw [kept p.1 lasts]
  · rfl

end Node.Shows

theorem Workflow.Written.node? {may : NodeId → String → Prop} {w w' : Workflow}
    (h : w.Written may w') (id : NodeId) :
    Option.Rel (fun n m => n.Written (may n.id) m) (w.node? id) (w'.node? id) := by
  rw [Workflow.node?, Workflow.node?, List.find?_eq_findSome?_guard,
    List.find?_eq_findSome?_guard]
  refine findSome?_rel h.nodes fun n m written => ?_
  rw [Option.guard, Option.guard, written.id]
  split
  · exact .some written
  · exact .none

/-! ### What a success has found -/

namespace Course

variable {t : Trigger} {turn : Turn} {trace : Trace} {result : Except ExecutionError Record}
  {stop w : World} {r : Record}

/-- A success ends with one write, to the workflow that the last answer found. -/
theorem ok_write {had : Option RecordId} {heard : Option Json}
    (course : Course t turn trace result stop) (ok : result = .ok r)
    (shape : Turn.Shape t w had heard turn) :
    ∃ response image, r.response = some response ∧ Output.ofResponse response = .ok image ∧
      stop.workflow = (trace.lastWorld w).workflow.update t.output (image.patch r.id) := by
  induction course generalizing w had heard with
  | ends hp =>
    obtain rfl := ok
    cases shape with
    | waits => cases hp
    | opens => cases hp
    | fails => cases hp
    | @succeeds id response image _ before _ _ read marked =>
      cases hp
      obtain ⟨q, hq, -, rfl, -⟩ := Store.mark_eq_ok marked
      refine ⟨response, image, rfl, read, ?_⟩
      rw [World.leave_workflow, Trace.lastWorld, Trace.interludes_last, Mark.apply_id,
        Store.get?_id hq]
      rfl
  | @goesOn turn stage answer found rest result stop hp _ ih =>
    obtain ⟨own, outcome⟩ := shape.outcome
    rw [Trace.lastWorld_turn]
    exact ih ok (.of_resume t found stage answer (outcome.waiting stage hp).2)

/-- From its record on a success has found nothing new in the workflow but the guides that it made
itself. -/
theorem run_found {id : RecordId} {steps : List PreprocessStep} {main : MainStep}
    (course : Course t turn trace (.ok r) stop)
    (hp : turn.progress = .waiting (Trigger.next id steps main))
    (still : ∀ i ∈ trace.interludes, i.Still) (start : World) :
    (trace.lastWorld start).workflow =
      turn.world.workflow.write (guideWrites steps trace.interludes) := by
  induction steps generalizing main turn trace start with
  | nil =>
    obtain ⟨answer, found, rest, rfl, later⟩ := course.of_waiting hp
    rw [Trace.interludes_turn] at still
    have same : found.workflow = turn.world.workflow := (still _ List.mem_cons_self).workflow
    -- The answer to the main call is the last one.
    obtain ⟨final, rfl, -⟩ := later.main_order
    rw [Trace.lastWorld_turn, ← same]
    rfl
  | cons step steps ih =>
    obtain ⟨answer, found, rest, rfl, later⟩ := course.of_waiting hp
    rw [Trace.interludes_turn] at still ⊢
    obtain ⟨here, calm⟩ := List.forall_mem_cons.1 still
    have same : found.workflow = turn.world.workflow := here.workflow
    cases answer with
    | error e => cases (later.of_returned rfl).2.1
    | ok url =>
      rw [Trace.lastWorld_turn, ih later rfl calm, guideWrites_cons, Workflow.write_append, ← same]
      rfl

/-- A success has compiled a request, and what it has found in the end are its own guides. -/
theorem prepare_found (course : Course t (t.prepare w) trace (.ok r) stop)
    (still : ∀ i ∈ trace.interludes, i.Still) (start : World) :
    ∃ request, w.compile t.output = .ok request ∧ (trace.lastWorld start).workflow =
      w.workflow.write (guideWrites request.preprocess trace.interludes) := by
  cases hc : w.compile t.output with
  | error cause =>
    rw [Trigger.prepare_error hc] at course
    cases (course.of_returned rfl).2.1
  | ok request =>
    rw [Trigger.prepare_ok hc] at course
    exact ⟨request, rfl, course.run_found rfl still start⟩

end Course

/-- The attributes of nodes that an execution writes before its end. -/
def referenceKeys : List String :=
  ["imageId", "imageUrl", "maskId", "maskUrl", "guideUrl"]

namespace Surroundings

variable {σ : Type} {e : Surroundings σ} {output : NodeId} {w entered : World} {r : Record}

/-- An execution that succeeds was let in and ends with one write to the workflow that its last
answer found. -/
theorem execute_write (e : Surroundings σ) (s : σ) (ok : (e.execute output w s).1 = .ok r) :
    ∃ response image, r.response = some response ∧ Output.ofResponse response = .ok image ∧
      (w.enter? output).isSome ∧ ∀ old,
        ((e.trace output w s).lastWorld w).workflow.node? output = some old →
          ∃ n, (e.execute output w s).2.1.workflow.node? output = some n ∧
            old.Shows n image r.id := by
  obtain ⟨entered, he⟩ := e.execute_entered (by rw [ok]; nofun)
  obtain ⟨response, image, heard, read, written⟩ :=
    (e.execute_observed output w s).2.ok_write ok (World.trigger_shape he)
  have same : ((e.trace output w s).lastWorld entered).workflow =
      ((e.trace output w s).lastWorld w).workflow := by
    obtain ⟨inFlight, rfl⟩ := World.enter?_eq_some he
    rw [Trace.lastWorld, Trace.lastWorld]
    cases (e.trace output w s).interludes.getLast? <;> rfl
  refine ⟨response, image, heard, read, by rw [he]; rfl, fun old ho => ?_⟩
  refine ⟨old.merge (image.patch r.id), ?_, .of_merge image r.id old⟩
  rw [written, same, Workflow.node?_update, ho, Option.map_some, if_pos rfl]

/-- Where nobody else writes, the output node of a success has its references changed at most when
the last answer comes. -/
theorem Still.found_written (still : e.Still) (s : σ) (h : w.enter? output = some entered)
    (ok : (e.execute output w s).1 = .ok r) :
    Named w.workflow.nodes output ∧ w.workflow.Written (fun _ key => key ∈ referenceKeys)
      ((e.trace output w s).lastWorld w).workflow := by
  have calm := still.of_mem output w s
  obtain ⟨linked, rest, failure, tail, -, course⟩ := (e.execute_observed output w s).2.uploads h
  rw [ok] at course
  cases failure with
  | some cause => cases (course.of_returned rfl).2.1
  | none =>
    rw [Trigger.proceed_done] at course
    obtain ⟨last, rfl, prepared⟩ := course.of_after
    rw [Trace.interludes_append, Trace.interludes_last, List.nil_append] at tail
    let seen := (e.trace output w s).interludes
    let sent := seen.take (w.uploadsFor output).length
    obtain ⟨request, compiled, guides⟩ := prepared.prepare_found
      (fun i hi => calm i (List.mem_of_mem_drop (tail ▸ hi)))
      ((sent.getLast?.map Interlude.after).getD w)
    have references := (linked.still fun i hi => calm i (List.mem_of_mem_take hi)).1
    obtain ⟨inFlight, rfl⟩ := World.enter?_eq_some h
    -- The last answer of all is that of the last call after the uploads, if there is one.
    have found : (e.trace output w s).lastWorld w =
        Trace.lastWorld last ((sent.getLast?.map Interlude.after).getD w) := by
      have split : seen = sent ++ Trace.interludes last := by
        rw [tail]
        exact (List.take_append_drop _ _).symm
      rw [Trace.lastWorld, Trace.lastWorld, show (e.trace output w s).interludes = seen from rfl,
        split, List.getLast?_append]
      cases (Trace.interludes last).getLast? <;> rfl
    have before : w.workflow.Written (fun _ key => key ∈ referenceKeys)
        (World.settled { w with inFlight } (w.uploadsFor output) sent).workflow := by
      rw [references]
      refine .of_writes (uploadWrites_within fun p hp key hk => ?_)
      have slot := slot_of_mem_pendingUploads hp
      simp only [ImageSlot.all, List.mem_cons, List.not_mem_nil, or_false] at slot
      obtain slot | slot := slot <;> obtain rfl | rfl := hk <;> rw [slot] <;> decide
    have guided : ∀ x ∈ guideWrites request.preprocess (Trace.interludes last),
        x.Within fun _ key => key ∈ referenceKeys :=
      guideWrites_within fun _ _ _ _ => by simp [referenceKeys]
    rw [found, guides]
    refine ⟨by_contra fun unnamed => ?_, before.trans (.of_writes guided)⟩
    have ids := before.ids_ancestors output
    rw [ancestors_eq_nil_iff.2 unnamed, List.map_nil, eq_comm, List.map_eq_nil_iff] at ids
    exact (compile_eq_ok.1 compiled).1 ids

/-- Where nobody else writes, the output node of a success says what it can say of the image, and is
otherwise as it was when the execution began. -/
theorem Still.execute_shows (still : e.Still) (s : σ) (ok : (e.execute output w s).1 = .ok r) :
    ∃ response image, r.response = some response ∧ Output.ofResponse response = .ok image ∧
      ∃ old n, w.workflow.node? output = some old ∧
        (e.execute output w s).2.1.workflow.node? output = some n ∧ old.Shows n image r.id := by
  obtain ⟨response, image, heard, read, entered, shown⟩ := e.execute_write s ok
  obtain ⟨entered, he⟩ := Option.isSome_iff_exists.1 entered
  obtain ⟨⟨m, hm, own⟩, kept⟩ := still.found_written s he ok
  have there : (w.workflow.node? output).isSome :=
    List.find?_isSome.2 ⟨m, hm, beq_iff_eq.2 own⟩
  obtain ⟨old, ho⟩ := Option.isSome_iff_exists.1 there
  have met := kept.node? output
  rw [ho] at met
  generalize ((e.trace output w s).lastWorld w).workflow.node? output = last at met shown
  cases met with
  | some changed =>
    obtain ⟨n, hn, shows⟩ := shown _ rfl
    have kept : ∀ key ∈ lastingKeys, key ∉ referenceKeys := by decide
    exact ⟨response, image, heard, read, old, n, ho, hn,
      shows.of_kept fun key lasts => changed.kept key (kept key lasts)⟩

/-- An execution with nothing to upload and no guide to make succeeds if its main call brings an
image. -/
theorem execute_answered {response : Json} {image : Output} (s : σ)
    (answers : ∀ main w s, e.answer (.main main) w s = (.ok response, w, s))
    (read : Output.ofResponse response = .ok image) (he : w.enter? output = some entered)
    (uploads : w.uploadsFor output = []) (compiles : (entered.compile output).isOk)
    (steps : (entered.stepsFor output).isEmpty) :
    ∃ r, (e.execute output w s).1 = .ok r ∧ r.response = some response := by
  let t : Trigger := ⟨w.workflow.id, output⟩
  obtain ⟨request, compiled⟩ := exists_ok_of_isOk compiles
  rw [World.stepsFor, compiled, List.isEmpty_iff] at steps
  have unguided : request.preprocess = [] := steps
  have begun : w.trigger output = Turn.after {
      world := entered.opened t request
      events := [.generationStarted entered.nextName output request.flow request.main.method.name]
      progress := .waiting (.generating entered.nextName request.main) }
      [.executionStarted w.workflow.id output] := by
    rw [World.trigger_entered he, uploads]
    change (t.prepare entered).after _ = _
    rw [Trigger.prepare_ok compiled, unguided]
    rfl
  have marked : (entered.opened t request).store.mark (.succeeded response) entered.now
      entered.nextName = .ok _ := Store.mark_ok (entered.get?_opened t request) rfl
  let r := (Mark.succeeded response).apply entered.now (entered.openedRecord t request)
  have ended : (t.resume (entered.opened t request) (.generating entered.nextName request.main)
      (.ok response)).progress = .returned (.ok r) := by
    rw [Trigger.resume_read read, Trigger.succeed_ok marked]
  refine ⟨r, ?_, rfl⟩
  simp only [execute, begun, Turn.after]
  rw [finish_returned (answers _ _ _) ended]

/-- A success writes to its output node what there is to say of its image and its record, and
removes an identifier that the image does not have. A seed, a prompt or a flag that the image does
not have stays as the last answer found it, so that the node describes the image just if there was
none. Where nobody else writes, it is what was there when the execution began. -/
theorem execute_describes (e : Surroundings σ) (output : NodeId) (w : World) (s : σ) {r : Record}
    (ok : (e.execute output w s).1 = .ok r) :
    let found := (e.trace output w s).lastWorld w
    let stop := (e.execute output w s).2.1
    ∃ response image, r.response = some response ∧ Output.ofResponse response = .ok image ∧
      (∀ old, found.workflow.node? output = some old →
        ∃ n, stop.workflow.node? output = some n ∧ old.Shows n image r.id) ∧
      (e.Still → ∃ old n, w.workflow.node? output = some old ∧
        stop.workflow.node? output = some n ∧ old.Shows n image r.id) := by
  intro found stop
  obtain ⟨response, image, heard, read, -, shown⟩ := e.execute_write s ok
  refine ⟨response, image, heard, read, shown, fun still => ?_⟩
  obtain ⟨again, same, heard', read', shows⟩ := still.execute_shows s ok
  obtain rfl : response = again := Option.some.inj (heard.symm.trans heard')
  obtain rfl : image = same := Except.ok.inj (read.symm.trans read')
  exact shows

/-- The image has no seed, and neither has the node that it comes to. -/
theorem execute_describes_unseeded :
    let w : World := {
      settings := {}
      workflow := ⟨"flow", "", [⟨"out", "output", .obj [("imageId", .str "old")]⟩], []⟩
      recordName := toString }
    let response : Json := .obj [("nsfw", .bool true), ("prompt", .str "x"), ("url", .str "/1")]
    let e : Surroundings Unit := {
      answer c w s := match c with
        | .main _ => (.ok response, w, s)
        | _ => (.error (.transport "down"), w, s)
      publish _ s := (.ok (), s) }
    ∃ r n, (e.execute "out" w ()).1 = .ok r ∧
      (e.execute "out" w ()).2.1.workflow.node? "out" = some n ∧
      n.Describes ⟨"/1", none, none, some "x", some true⟩ r.id := by
  intro w response e
  have still : e.Still := fun c w s => by cases c <;> exact ⟨rfl, rfl⟩
  have read : Output.ofResponse response = .ok ⟨"/1", none, none, some "x", some true⟩ := rfl
  have uploads : w.uploadsFor "out" = [] := by decide +kernel
  have steps : (w.stepsFor "out").isEmpty := by decide +kernel
  have compiles : (w.compile "out").isOk := by decide +kernel
  obtain ⟨r, ok, heard⟩ :=
    e.execute_answered () (fun _ _ _ => rfl) read rfl uploads compiles steps
  obtain ⟨answer, image, heard', read', -, shown⟩ := e.execute_describes "out" w () ok
  obtain rfl := Option.some.inj (heard.symm.trans heard')
  obtain rfl := Except.ok.inj (read.symm.trans read')
  obtain ⟨old, n, ho, hn, shows⟩ := shown still
  have unseeded : old.attribute? "seed" = none := by cases ho; rfl
  refine ⟨r, n, ok, hn, shows.describes.2 ?_⟩
  simp [Output.attributes, lastingKeys, unseeded]

/-- An image without a seed comes to a node with the seed of an earlier one, which stays. -/
theorem execute_keeps_seed :
    let w : World := {
      settings := {}
      workflow := ⟨"flow", "", [⟨"out", "output", .obj [("seed", .num (.int 11))]⟩], []⟩
      recordName := toString }
    let response : Json := .obj [("url", .str "/2")]
    let e : Surroundings Unit := {
      answer c w s := match c with
        | .main _ => (.ok response, w, s)
        | _ => (.error (.transport "down"), w, s)
      publish _ s := (.ok (), s) }
    ∃ r n, (e.execute "out" w ()).1 = .ok r ∧ r.response = some response ∧
      Output.ofResponse response = .ok ⟨"/2", none, none, none, none⟩ ∧
      (e.execute "out" w ()).2.1.workflow.node? "out" = some n ∧
      n.attribute? "seed" = some (.num (.int 11)) ∧
      ¬ n.Describes ⟨"/2", none, none, none, none⟩ r.id := by
  intro w response e
  have still : e.Still := fun c w s => by cases c <;> exact ⟨rfl, rfl⟩
  have read : Output.ofResponse response = .ok ⟨"/2", none, none, none, none⟩ := rfl
  have uploads : w.uploadsFor "out" = [] := by decide +kernel
  have steps : (w.stepsFor "out").isEmpty := by decide +kernel
  have compiles : (w.compile "out").isOk := by decide +kernel
  obtain ⟨r, ok, heard⟩ :=
    e.execute_answered () (fun _ _ _ => rfl) read rfl uploads compiles steps
  obtain ⟨answer, image, heard', read', old, n, ho, hn, shows⟩ := still.execute_shows () ok
  obtain rfl := Option.some.inj (heard.symm.trans heard')
  obtain rfl := Except.ok.inj (read.symm.trans read')
  cases ho
  have kept : n.attribute? "seed" = some (.num (.int 11)) :=
    shows.attributes ("seed", none) (by simp [Output.attributes])
  refine ⟨r, n, ok, heard, read, hn, kept, fun describes => ?_⟩
  have gone := describes ("seed", none) (by simp [Output.attributes])
  rw [kept] at gone
  cases gone

end Surroundings

end ImageGraph
