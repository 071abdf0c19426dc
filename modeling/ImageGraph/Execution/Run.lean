import ImageGraph.Execution.Cycle

/-!
Running an execution to its end against a service. The service may do anything to the world while
it works on a call. Every run ends: a stage is followed by a smaller one.
-/

namespace ImageGraph

/-- How far a stage is from the end: its phase, and the calls of that phase that follow it. -/
def Stage.distance : Stage → Nat × Nat
  | uploading _ rest _ _ => (2, rest.length)
  | preprocessing _ _ rest _ => (1, rest.length)
  | generating _ _ => (0, 0)

abbrev Stage.Before (a b : Stage) : Prop :=
  Prod.Lex (· < ·) (· < ·) a.distance b.distance

/-- Whatever a turn waits for comes before `s`. -/
def Turn.Below (turn : Turn) (s : Stage) : Prop :=
  ∀ stage, turn.progress = .waiting stage → stage.Before s

theorem Turn.Below.after {turn : Turn} {s : Stage} {events : List Event} (h : turn.Below s) :
    (turn.after events).Below s := h

namespace Trigger

theorem fail_below (t : Trigger) (w : World) (record : Option RecordId) (e : ExecutionError)
    (s : Stage) : (t.fail w record e).Below s := by
  intro stage h
  cases h

theorem next_before {record : RecordId} {steps : List PreprocessStep} {main : MainStep} {s : Stage}
    (h : 1 < s.distance.1 ∨ s.distance.1 = 1 ∧ steps.length ≤ s.distance.2) :
    (next record steps main).Before s := by
  cases steps <;> grind [next, Stage.distance]

theorem prepare_below (t : Trigger) (w : World) {s : Stage} (h : s.distance.1 = 2) :
    (t.prepare w).Below s := by
  unfold prepare
  split
  · exact fail_below _ _ _ _ _
  · dsimp only
    split
    · exact fail_below _ _ _ _ _
    · rintro stage ⟨⟩
      exact next_before (.inl (by omega))

theorem proceed_below (t : Trigger) (w : World) {uploads : List PendingUpload} {total : Nat}
    {failure : Option ExecutionError} {s : Stage} (h : s.distance.1 = 2)
    (hl : uploads.length ≤ s.distance.2) : (t.proceed w uploads total failure).Below s := by
  unfold proceed
  split
  · rintro stage ⟨⟩
    grind [Stage.distance]
  · exact fail_below _ _ _ _ _
  · split
    · exact prepare_below t w h
    · exact (prepare_below t w h).after

theorem succeed_below (t : Trigger) (w : World) (record : RecordId) (response : Json)
    (output : Output) (s : Stage) : (t.succeed w record response output).Below s := by
  unfold succeed
  dsimp only
  split
  · exact fail_below _ _ _ _ _
  · rintro stage ⟨⟩

theorem resume_below (t : Trigger) (w : World) (s : Stage) (answer : s.call.Answer) :
    (t.resume w s answer).Below s := by
  unfold resume
  split
  · exact proceed_below t _ rfl (Nat.le_refl _)
  · exact proceed_below t _ rfl (Nat.le_refl _)
  · rintro stage ⟨⟩
    exact next_before (.inr ⟨rfl, Nat.le_refl _⟩)
  · exact fail_below _ _ _ _ _
  · split
    · exact fail_below _ _ _ _ _
    · exact succeed_below _ _ _ _ _ _
  · exact fail_below _ _ _ _ _

end Trigger

/-- A service and a sink with a state of their own. -/
structure Surroundings (σ : Type) where
  answer : (c : ServiceCall) → World → σ → c.Answer × World × σ
  publish : Event → σ → Except SinkError Unit × σ

namespace Surroundings

variable {σ : Type}

/-- Sends events to the sink. Whether it takes them makes no difference. -/
def publishAll (e : Surroundings σ) (events : List Event) (s : σ) : σ :=
  events.foldl (fun s event => (e.publish event s).2) s

/-- Answers calls until the execution returns. -/
def finish (e : Surroundings σ) (t : Trigger) (w : World) (s : σ) (stage : Stage) :
    Except ExecutionError Record × World × σ :=
  let (answer, w, s) := e.answer stage.call w s
  let turn := t.resume w stage answer
  let s := e.publishAll turn.events s
  match _h : turn.progress with
  | .returned result => (result, turn.world, s)
  | .waiting next => e.finish t turn.world s next
termination_by stage.distance
decreasing_by exact t.resume_below w stage answer next _h

/-- Runs an execution for an output node from its trigger to its end. -/
def execute (e : Surroundings σ) (output : NodeId) (w : World) (s : σ) :
    Except ExecutionError Record × World × σ :=
  let t : Trigger := ⟨w.workflow.id, output⟩
  let turn := w.trigger output
  let s := e.publishAll turn.events s
  match turn.progress with
  | .returned result => (result, turn.world, s)
  | .waiting stage => e.finish t turn.world s stage

end Surroundings

end ImageGraph
