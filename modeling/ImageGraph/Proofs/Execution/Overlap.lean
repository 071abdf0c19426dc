import ImageGraph.Proofs.Execution.Change
import ImageGraph.Proofs.Execution.Ledger
import ImageGraph.Proofs.Execution.Report

/-! Executions that overlap, for one output node or for several, with a host that creates, marks and
clears records meanwhile. Each touches no record but its own, and leaves it ended; whoever finishes
last, the latest record of an output node is the one created last. -/

namespace ImageGraph

open Relation Store

/-- What a turn does with records, for an execution that had a record before, or none, and has one
or none afterwards. -/
structure Turn.Outcome (turn : Turn) (w : World) (had own : Option RecordId) : Prop where
  changes : w.Changes turn.world
  created : had.toList ++ w.namesUntil turn.world = own.toList
  spares : ∀ id ∉ own, turn.world.store.get? id = w.store.get? id
  waiting : ∀ stage, turn.progress = .waiting stage → stage.record? = own ∧ stage.Sound
  returned : ∀ result, turn.progress = .returned result →
    ∀ id ∈ own, ∀ r, turn.world.store.get? id = some r → r.status.isFinal

namespace Turn.Shape

variable {t : Trigger} {w : World} {had : Option RecordId} {heard : Option Json} {turn : Turn}

private theorem get?_tryMark_of_ne {s : Store} {m : Mark} {now : Timestamp} {id other : RecordId}
    (h : other ≠ id) : (s.tryMark m now id).get? other = s.get? other := by
  rw [get?_tryMark]
  simp [h]

theorem changes (h : Shape t w had heard turn) : w.Changes turn.world := by
  cases h with
  | waits => exact .single (.elsewhere rfl rfl rfl)
  | @opens workflow events stage request =>
    have patched : w.Change { w with workflow } := .elsewhere rfl rfl rfl
    have created := World.Change.create (w := { w with workflow }) t.workflowId t.output
      request.toJson
    exact ((ReflTransGen.single patched).tail created).tail (.mark .running w.nextName)
  | @fails workflow e before =>
    have written : w.Change
        { w with workflow := workflow.update t.output (ExecutionError.patch e.message) } :=
      .elsewhere rfl rfl rfl
    change w.Changes (t.fail { w with workflow } had e).world
    rw [t.fail_world]
    cases had with
    | none => exact (ReflTransGen.single written).tail (.leave _ _)
    | some id =>
      exact ((ReflTransGen.single written).tail (.mark (.failed e.message) id)).tail (.leave _ _)
  | @succeeds id response output r =>
    have written : w.Change (w.update t.output (output.patch id)) := .elsewhere rfl rfl rfl
    exact ((ReflTransGen.single written).tail (.mark (.succeeded response) id)).tail (.leave _ _)

theorem outcome (h : Shape t w had heard turn) : ∃ own, turn.Outcome w had own := by
  have changes := h.changes
  cases h with
  | waits hw hs hd hf =>
    refine ⟨had, changes, ?_, fun _ _ => rfl, fun stage hp => ?_,
      fun _ hp => Progress.noConfusion hp⟩
    · rw [World.namesUntil_eq_nil (by rfl), List.append_nil]
    · cases hp
      exact ⟨hs, hd⟩
  | @opens workflow events stage request hw hn hs hd hf =>
    refine ⟨some w.nextName, changes, ?_, fun id hid => ?_, fun stage hp => ?_,
      fun _ hp => Progress.noConfusion hp⟩
    · rw [World.namesUntil_succ rfl, hn]
      rfl
    · have other : id ≠ w.nextName := fun e => hid (e ▸ rfl)
      exact (get?_tryMark_of_ne other).trans (get?_create_of_ne other _ _ _)
    · cases hp
      exact ⟨hs, hd⟩
  | @fails workflow e before hw hn hf =>
    refine ⟨had, changes, ?_, fun id hid => ?_, fun _ hp => Progress.noConfusion hp,
      fun _ _ id hid r hr => ?_⟩
    · rw [World.namesUntil_eq_nil, List.append_nil]
      exact t.fail_named _ _ _
    · change (t.fail { w with workflow } had e).world.store.get? id = _
      rw [t.fail_world, World.leave_store]
      cases had with
      | none => rfl
      | some own => exact get?_tryMark_of_ne fun same => hid (same ▸ rfl)
    · have report : FailureReport t.output had w _ _ e := .of_fail hw hf
      obtain ⟨idle, running⟩ := report.ended id hid r hr
      cases hs : r.status with
      | idle => exact absurd hs idle
      | running => exact absurd hs running
      | _ => rfl
  | @succeeds id response output r before hd hr ho hm hf =>
    have report : SuccessReport t.output response output w _ _ r := .of_succeed ho hm hf
    obtain ⟨q, hq, -, same, -⟩ := Store.mark_eq_ok hm
    have own : r.id = id := by rw [same, Mark.apply_id, get?_id hq]
    refine ⟨had, changes, ?_, fun other ho => ?_, fun _ hp => Progress.noConfusion hp,
      fun _ _ other ho found hfo => ?_⟩
    · rw [World.namesUntil_eq_nil, List.append_nil]
      exact World.leave_named _ _
    · rw [World.leave_store]
      exact get?_tryMark_of_ne fun e => ho (e ▸ hd)
    · -- The one record of a turn that succeeds is the one that it has marked.
      obtain rfl : id = other := Option.some.inj (hd.symm.trans ho)
      obtain rfl : r = found := Option.some.inj (report.stored.symm.trans (own ▸ hfo))
      rw [report.status]
      rfl

end Turn.Shape

/-- A trigger may be rejected; then nothing has changed. -/
theorem World.trigger_outcome (w : World) (output : NodeId) :
    ∃ own, (w.trigger output).Outcome w none own := by
  cases he : w.enter? output with
  | none =>
    rw [trigger_rejected he]
    exact ⟨none, .refl, namesUntil_eq_nil rfl, fun _ _ => rfl, fun _ hp => Progress.noConfusion hp,
      fun _ _ _ hid => absurd hid (Option.not_mem_none _)⟩
  | some entered =>
    have shape := trigger_shape he
    obtain ⟨inFlight, rfl⟩ := enter?_eq_some he
    obtain ⟨own, h⟩ := shape.outcome
    have taken : w.Change { w with inFlight } := .elsewhere rfl rfl rfl
    exact ⟨own, .head taken h.changes, h.created, h.spares, h.waiting, h.returned⟩

namespace Account

/-- An execution has created the record of one name, or none, and has touched no other record. -/
structure Keeps (a : Account) (own : Option RecordId) : Prop where
  created : a.created = own.toList
  spares : ∀ p ∈ a.turns, ∀ id ∉ own, p.2.store.get? id = p.1.store.get? id

/-- What is so of an execution at any time: it has its one record while it waits, and when it has
returned, that record has ended. -/
structure Owns (a : Account) (w : World) (own : Option RecordId) : Prop extends a.Keeps own where
  given : ∀ id ∈ own, w.Given id
  waiting : ∀ stage, a.progress = .waiting stage → stage.record? = own ∧ stage.Sound
  returned : ∀ result, a.progress = .returned result → ∀ id ∈ own, w.Ended id

variable {a : Account} {w w' : World} {turn : Turn} {had own : Option RecordId}

theorem Keeps.goOn (h : a.Keeps had) (ho : turn.Outcome w had own) :
    (a.goOn w turn).Keeps own where
  created := by rw [created_goOn, h.created, ho.created]
  spares p hp id hid := by
    obtain hp | hp := List.mem_append.1 hp
    · refine h.spares p hp id fun hh => hid (Option.mem_toList.1 ?_)
      rw [← ho.created]
      exact List.mem_append_left _ (Option.mem_toList.2 hh)
    · rw [List.mem_singleton.1 hp]
      exact ho.spares id hid

theorem Owns.goOn (h : a.Keeps had) (hg : ∀ id ∈ had, w.Given id) (ho : turn.Outcome w had own)
    (hn : w.Numbered) : (a.goOn w turn).Owns turn.world own where
  toKeeps := h.goOn ho
  given id hid := by
    have created : id ∈ had.toList ++ w.namesUntil turn.world :=
      ho.created ▸ Option.mem_toList.2 hid
    obtain before | now := List.mem_append.1 created
    · exact ho.changes.given (hg id (Option.mem_toList.1 before))
    · exact ho.changes.given_of_mem now
  waiting := ho.waiting
  returned result hp id hid r hr same :=
    ho.returned result hp id hid r ((ho.changes.numbered hn).get?_eq_some_iff.2 ⟨hr, same⟩)

theorem Owns.changes (h : a.Owns w own) (hn : w.Numbered) (hc : w.Changes w') : a.Owns w' own where
  toKeeps := h.toKeeps
  given id hid := hc.given (h.given id hid)
  waiting := h.waiting
  returned result hp id hid := hc.ended hn (h.given id hid) (h.returned result hp id hid)

end Account

namespace Ledger

/-- The invariant of overlapping executions. -/
structure Balanced (x : Ledger) : Prop where
  numbered : x.world.Numbered
  owns : ∀ a ∈ x.accounts, ∃ own, a.Owns x.world own

namespace Balanced

variable {x y : Ledger} {w w' : World} {accounts : List Account}

theorem changes (h : Balanced ⟨w, accounts⟩) (hc : w.Changes w') : Balanced ⟨w', accounts⟩ where
  numbered := hc.numbered h.numbered
  owns a ha := by
    obtain ⟨own, owns⟩ := h.owns a ha
    exact ⟨own, owns.changes h.numbered hc⟩

theorem trigger (h : Balanced x) (output : NodeId) :
    Balanced
      { world := (x.world.trigger output).world
        accounts := x.accounts ++
          [.start ⟨x.world.workflow.id, output⟩ x.world (x.world.trigger output)] } := by
  obtain ⟨own, outcome⟩ := x.world.trigger_outcome output
  have rest := h.changes outcome.changes
  refine ⟨rest.numbered, fun a ha => ?_⟩
  obtain ha | ha := List.mem_append.1 ha
  · exact rest.owns a ha
  · -- The first turn goes on from an account without turns.
    have blank : (⟨⟨x.world.workflow.id, output⟩, [], (x.world.trigger output).progress⟩ :
        Account).Keeps none := ⟨rfl, fun _ hp => absurd hp List.not_mem_nil⟩
    rw [List.mem_singleton.1 ha]
    exact ⟨own, .goOn blank (fun _ hid => absurd hid (Option.not_mem_none _)) outcome h.numbered⟩

theorem answer {before after : List Account} {a : Account} {stage : Stage}
    (h : Balanced ⟨w, before ++ a :: after⟩) (hp : a.progress = .waiting stage)
    (answer : stage.call.Answer) :
    Balanced
      { world := (a.trigger.resume w stage answer).world
        accounts := before ++ a.goOn w (a.trigger.resume w stage answer) :: after } := by
  obtain ⟨had, owns⟩ := h.owns a (List.mem_append_right _ List.mem_cons_self)
  obtain ⟨record, sound⟩ := owns.waiting stage hp
  obtain ⟨own, outcome⟩ := (Turn.Shape.of_resume a.trigger w stage answer sound).outcome
  rw [record] at outcome
  have rest := h.changes outcome.changes
  refine ⟨rest.numbered, fun b hb => ?_⟩
  obtain hb | hb := List.mem_append.1 hb
  · exact rest.owns b (List.mem_append_left _ hb)
  · obtain rfl | hb := List.mem_cons.1 hb
    · exact ⟨own, .goOn owns.toKeeps owns.given outcome h.numbered⟩
    · exact rest.owns b (List.mem_append_right _ (List.mem_cons_of_mem _ hb))

theorem step (h : Balanced x) (hs : Step World.Change x y) : Balanced y := by
  cases hs with
  | trigger _ output => exact h.trigger output
  | answer reply hp => exact h.answer hp reply
  | other changed => exact h.changes (.single changed)

theorem run (h : Balanced x) (hr : Run World.Change x y) : Balanced y := by
  induction hr with
  | refl => exact h
  | tail _ last ih => exact ih.step last

end Balanced

/-- What holds at any moment of executions that overlap. -/
structure Accounted (x : Ledger) : Prop where
  /-- An execution has created one record at most, and has touched no other. -/
  keeps : ∀ a ∈ x.accounts, ∃ own, a.Keeps own
  /-- When it has returned, what it created has ended or is gone. -/
  ended : ∀ a ∈ x.accounts, ∀ result, a.progress = .returned result →
    ∀ id ∈ a.created, x.world.Ended id
  /-- Records have the names that were given out as they were created, in this order. -/
  name : ∀ r ∈ x.world.store.records, r.id = x.world.recordName r.seq
  /-- The latest record of an output node is the one created last of those that there still are. -/
  latest : ∀ output r, x.world.store.latest? output = some r ↔
    Newest x.world.store.records output r
  no_latest : ∀ output, x.world.store.latest? output = none ↔
    ∀ r ∈ x.world.store.records, r.outputNodeId ≠ output

theorem Balanced.accounted {x : Ledger} (h : Balanced x) : Accounted x where
  keeps a ha := by
    obtain ⟨own, owns⟩ := h.owns a ha
    exact ⟨own, owns.toKeeps⟩
  ended a ha result hp id hid := by
    obtain ⟨own, owns⟩ := h.owns a ha
    exact owns.returned result hp id (Option.mem_toList.1 (owns.created ▸ hid))
  name := h.numbered.name
  latest output r := by
    obtain ⟨l, shown⟩ := h.numbered.shown
    exact shown.latest?_eq_some_iff
  no_latest output := by
    obtain ⟨l, shown⟩ := h.numbered.shown
    exact shown.latest?_eq_none_iff

theorem balanced_start {w : World} (fresh : Function.Injective w.recordName)
    (new : w.store = {}) (unnamed : w.named = 0) : Balanced ⟨w, []⟩ where
  numbered := ⟨fresh, by rw [new, unnamed], by simp [new], [], new ▸ shows_new⟩
  owns _ ha := absurd ha List.not_mem_nil

/-- Whatever executions are started, in whatever order their calls are answered, and whatever the
host does with the store meanwhile: from a new store on, with names that differ, all executions are
accounted for at every moment. -/
theorem run_accounted {w : World} {x : Ledger} (fresh : Function.Injective w.recordName)
    (new : w.store = {}) (unnamed : w.named = 0) (h : Run World.Change ⟨w, []⟩ x) :
    x.Accounted := by
  have start := balanced_start fresh new unnamed
  exact (start.run h).accounted

/-- Two executions for one output node. The first is canceled while both wait, and the image that it
gets then comes too late, so it returns without a record that succeeded. -/
theorem canceled_accounted :
    let w : World := {
      settings := { overlapPolicy := .allow }
      workflow := ⟨"flow", "", [⟨"out", "output", .null⟩], []⟩
      recordName := fun i => String.ofList (List.replicate (i + 1) 'r') }
    Function.Injective w.recordName ∧ w.store = {} ∧ w.named = 0 ∧
      ∃ x, Run World.Change ⟨w, []⟩ x ∧ x.accounts.map Account.created = [["r"], ["rr"]] ∧
        x.accounts.map (fun a => a.waiting?.isSome) = [false, true] ∧
        (x.world.store.get? "r").map Record.status = some .canceled ∧
        (x.world.store.latest? "out").map Record.id = some "rr" ∧ x.Accounted := by
  intro w
  have fresh : Function.Injective w.recordName := fun i j h => by
    simpa [w] using congrArg String.length h
  let t : Trigger := ⟨"flow", "out"⟩
  let one := (w.trigger "out").world
  let two := (one.trigger "out").world
  let canceled : World := { two with store := two.store.tryMark .canceled two.now "r" }
  let first := Account.start t w (w.trigger "out")
  let second := Account.start ⟨one.workflow.id, "out"⟩ one (one.trigger "out")
  have started : Run World.Change ⟨w, []⟩ ⟨one, [first]⟩ := .single (.trigger _ "out")
  have joined : Step World.Change ⟨one, [first]⟩ ⟨two, [first, second]⟩ := .trigger _ "out"
  have both : Run World.Change ⟨w, []⟩ ⟨canceled, [] ++ first :: [second]⟩ :=
    (started.tail joined).tail (.other (.mark .canceled "r"))
  obtain ⟨main, waits⟩ : ∃ main, first.progress = .waiting (.generating "r" main) := by
    have shape : first.waiting?.map (fun p => (p.stage.distance, p.stage.record?)) =
        some ((0, 0), some "r") := by
      decide +kernel
    obtain ⟨⟨_, stage⟩, found, same⟩ := Option.map_eq_some_iff.1 shape
    obtain ⟨-, waits⟩ := Account.progress_of_waiting? found
    cases stage with
    | uploading | preprocessing => cases same
    | generating id main =>
      cases same
      exact ⟨main, waits⟩
  let response : Json := .str "/1"
  let answer : (Stage.generating "r" main).call.Answer := .ok response
  have ended := both.tail (.answer answer waits)
  have late : first.trigger.resume canceled (.generating "r" main) answer =
      t.succeed canceled "r" response ⟨"/1", none, none, none, none⟩ := Trigger.resume_read rfl
  rw [late] at ended
  exact ⟨fresh, rfl, rfl, _, ended, by decide +kernel, by decide +kernel, by decide +kernel,
    by decide +kernel, run_accounted fresh rfl rfl ended⟩

end Ledger

/-- After a rehearsed execution all executions within its calls have returned as well, and all of
them are accounted for. -/
theorem Rehearsal.execute_accounted (depth : Nat) (output : NodeId) {w : World} (s : Script)
    (fresh : Function.Injective w.recordName) (new : w.store = {}) (unnamed : w.named = 0) :
    ∃ x : Ledger, x.world = ((player depth).surroundings.execute output w s).2.1 ∧
      x.accounts.filterMap Account.waiting? = [] ∧ x.Accounted := by
  have schedules := player_schedules Command.perform_change depth
  obtain ⟨x, run, shown⟩ := Ledger.exists_run
    (Surroundings.execute_schedules schedules output w s [])
  obtain ⟨world, waiting⟩ := Executor.mk.inj shown
  have start := Ledger.balanced_start fresh new unnamed
  exact ⟨x, world, waiting, (start.run run).accounted⟩

end ImageGraph
