import ImageGraph.Execution.Run
import ImageGraph.Proofs.Execution.Turn

/-! An execution as it looks from outside: its calls, its events, and the world that it leaves and
finds at each call. Watching it changes nothing, and what is seen is a course of turns. -/

namespace ImageGraph

/-- A service call with the world that it was made in, its answer, and the world that the answer
finds. -/
structure Interlude where
  call : ServiceCall
  before : World
  answer : call.Answer
  after : World

/-- The response that a main call brought. -/
def Interlude.response? : Interlude → Option Json
  | ⟨.main _, _, .ok (response : Json), _⟩ => some response
  | _ => none

inductive Observation where
  | event (e : Event)
  | call (i : Interlude)

def Observation.event? : Observation → Option Event
  | event e => some e
  | call _ => none

def Observation.interlude? : Observation → Option Interlude
  | event _ => none
  | call i => some i

abbrev Trace := List Observation

namespace Trace

def events (trace : Trace) : List Event :=
  trace.filterMap Observation.event?

def interludes (trace : Trace) : List Interlude :=
  trace.filterMap Observation.interlude?

/-- The world that the last answer found, or else the one at the start. -/
def lastWorld (trace : Trace) (start : World) : World :=
  (trace.interludes.getLast?.map Interlude.after).getD start

/-- The response to the last call, or else one heard before. -/
def lastResponse (trace : Trace) (heard : Option Json) : Option Json :=
  (trace.interludes.getLast?.map Interlude.response?).getD heard

end Trace

/-- The names given out on the way from one world to another. -/
def World.namesUntil (start stop : World) : List RecordId :=
  (List.range' start.named (stop.named - start.named)).map start.recordName

theorem World.namesUntil_eq_nil {start stop : World} (h : stop.named = start.named) :
    start.namesUntil stop = [] := by
  rw [namesUntil, h, Nat.sub_self]
  rfl

theorem World.namesUntil_succ {start stop : World} (h : stop.named = start.named + 1) :
    start.namesUntil stop = [start.nextName] := by
  rw [namesUntil, h, Nat.add_sub_cancel_left]
  rfl

/-- The records that an execution created: the names given out while it had control, which is up to
its first call, from each answer to the next call, and from the last answer to the end. -/
def createdBetween (start stop : World) : List Interlude → List RecordId
  | [] => start.namesUntil stop
  | i :: rest => start.namesUntil i.before ++ createdBetween i.after stop rest

namespace Trace

@[simp] theorem events_append (first rest : Trace) :
    Trace.events (first ++ rest) = first.events ++ rest.events :=
  List.filterMap_append

@[simp] theorem interludes_append (first rest : Trace) :
    Trace.interludes (first ++ rest) = first.interludes ++ rest.interludes :=
  List.filterMap_append

@[simp] theorem events_calls (calls : List Interlude) : Trace.events (calls.map .call) = [] := by
  simp [Trace.events, List.filterMap_map, Function.comp_def, Observation.event?]

@[simp] theorem interludes_calls (calls : List Interlude) :
    Trace.interludes (calls.map .call) = calls := by
  simp [Trace.interludes, List.filterMap_map, Function.comp_def, Observation.interlude?]

@[simp] theorem events_turn (events : List Event) (i : Interlude) (rest : Trace) :
    Trace.events (events.map .event ++ .call i :: rest) = events ++ Trace.events rest := by
  rw [Trace.events, List.filterMap_append, List.filterMap_cons_none rfl, List.filterMap_map]
  exact congrArg (· ++ _) List.filterMap_some

@[simp] theorem events_last (events : List Event) :
    Trace.events (events.map .event) = events := by
  simp [Trace.events, List.filterMap_map, Function.comp_def, Observation.event?]

@[simp] theorem interludes_turn (events : List Event) (i : Interlude) (rest : Trace) :
    Trace.interludes (events.map .event ++ .call i :: rest) = i :: Trace.interludes rest := by
  simp [Trace.interludes, List.filterMap_append, List.filterMap_map, Function.comp_def,
    Observation.interlude?]

@[simp] theorem interludes_last (events : List Event) :
    Trace.interludes (events.map .event) = [] := by
  simp [Trace.interludes, List.filterMap_map, Function.comp_def, Observation.interlude?]

theorem lastWorld_turn (events : List Event) (i : Interlude) (rest : Trace) (start : World) :
    Trace.lastWorld (events.map .event ++ .call i :: rest) start =
      Trace.lastWorld rest i.after := by
  rw [lastWorld, lastWorld, interludes_turn, List.getLast?_cons]
  cases rest.interludes.getLast? <;> rfl

theorem lastResponse_turn (events : List Event) (i : Interlude) (rest : Trace)
    (heard : Option Json) :
    Trace.lastResponse (events.map .event ++ .call i :: rest) heard =
      Trace.lastResponse rest i.response? := by
  rw [lastResponse, lastResponse, interludes_turn, List.getLast?_cons]
  cases rest.interludes.getLast? <;> rfl

end Trace

/-- The course of an execution from a turn on, whatever the service answers and whatever becomes of
the world meanwhile: what is seen of it, what it returns, and the world that it ends in. -/
inductive Course (t : Trigger) : Turn → Trace → Except ExecutionError Record → World → Prop where
  | ends {turn : Turn} {result : Except ExecutionError Record} :
      turn.progress = .returned result →
      Course t turn (turn.events.map .event) result turn.world
  | goesOn {turn : Turn} {stage : Stage} {answer : stage.call.Answer} {found : World}
      {rest : Trace} {result : Except ExecutionError Record} {stop : World} :
      turn.progress = .waiting stage →
      Course t (t.resume found stage answer) rest result stop →
      Course t turn
        (turn.events.map .event ++ .call ⟨stage.call, turn.world, answer, found⟩ :: rest)
        result stop

namespace Course

variable {t : Trigger} {turn : Turn} {trace : Trace} {result : Except ExecutionError Record}
  {stop : World}

theorem of_returned {r : Except ExecutionError Record} (course : Course t turn trace result stop)
    (hp : turn.progress = .returned r) :
    trace = turn.events.map .event ∧ result = r ∧ stop = turn.world := by
  cases course with
  | ends h => exact ⟨rfl, Progress.returned.inj (h.symm.trans hp), rfl⟩
  | goesOn h _ => cases h.symm.trans hp

theorem of_waiting {stage : Stage} (course : Course t turn trace result stop)
    (hp : turn.progress = .waiting stage) :
    ∃ answer found rest,
      trace = turn.events.map .event ++ .call ⟨stage.call, turn.world, answer, found⟩ :: rest ∧
        Course t (t.resume found stage answer) rest result stop := by
  cases course with
  | ends h => cases h.symm.trans hp
  | goesOn h later =>
    cases Progress.waiting.inj (h.symm.trans hp)
    exact ⟨_, _, _, rfl, later⟩

theorem of_after {events : List Event} (course : Course t (turn.after events) trace result stop) :
    ∃ rest, trace = events.map .event ++ rest ∧ Course t turn rest result stop := by
  cases hp : turn.progress with
  | returned r =>
    obtain ⟨rfl, rfl, rfl⟩ := course.of_returned hp
    exact ⟨_, List.map_append, .ends hp⟩
  | waiting stage =>
    obtain ⟨answer, found, rest, rfl, later⟩ := course.of_waiting hp
    refine ⟨_, ?_, .goesOn hp later⟩
    rw [← List.append_assoc, ← List.map_append]
    rfl

end Course

namespace Surroundings

variable {σ : Type}

/-- The same surroundings, which write down what they see of one execution. -/
def observed (e : Surroundings σ) : Surroundings (σ × Trace) where
  answer c w s :=
    let (answer, found, next) := e.answer c w s.1
    (answer, found, next, s.2 ++ [.call ⟨c, w, answer, found⟩])
  publish event s :=
    let (taken, next) := e.publish event s.1
    (taken, next, s.2 ++ [.event event])

/-- What is seen of an execution. -/
def trace (e : Surroundings σ) (output : NodeId) (w : World) (s : σ) : Trace :=
  (e.observed.execute output w (s, [])).2.2.2

theorem publishAll_observed (e : Surroundings σ) (events : List Event) (s : σ) (seen : Trace) :
    e.observed.publishAll events (s, seen) =
      (e.publishAll events s, seen ++ events.map .event) := by
  induction events generalizing s seen with
  | nil => simp [publishAll]
  | cons event rest ih =>
    have tail := ih (e.publish event s).2 (seen ++ [.event event])
    simpa [publishAll, observed] using tail

theorem finish_returned {e : Surroundings σ} {t : Trigger} {w found : World} {s next : σ}
    {stage : Stage} {answer : stage.call.Answer} {result : Except ExecutionError Record}
    (ha : e.answer stage.call w s = (answer, found, next))
    (hp : (t.resume found stage answer).progress = .returned result) :
    e.finish t w s stage =
      (result, (t.resume found stage answer).world,
        e.publishAll (t.resume found stage answer).events next) := by
  rw [finish]
  split
  rename_i h
  cases ha.symm.trans h
  dsimp only
  split <;> rename_i h <;> cases hp.symm.trans h
  rfl

theorem finish_waiting {e : Surroundings σ} {t : Trigger} {w found : World} {s next : σ}
    {stage later : Stage} {answer : stage.call.Answer}
    (ha : e.answer stage.call w s = (answer, found, next))
    (hp : (t.resume found stage answer).progress = .waiting later) :
    e.finish t w s stage =
      e.finish t (t.resume found stage answer).world
        (e.publishAll (t.resume found stage answer).events next) later := by
  rw [finish]
  split
  rename_i h
  cases ha.symm.trans h
  dsimp only
  split <;> rename_i h <;> cases hp.symm.trans h
  rfl

/-- An execution that waits is finished alike whether it is watched or not, and what is seen is the
call that it waits for and the course of the turn after it. -/
theorem finish_observed (e : Surroundings σ) (t : Trigger) (w : World) (s : σ) (seen : Trace)
    (stage : Stage) :
    ∃ answer found rest,
      e.observed.finish t w (s, seen) stage =
        ((e.finish t w s stage).1, (e.finish t w s stage).2.1, (e.finish t w s stage).2.2,
          seen ++ .call ⟨stage.call, w, answer, found⟩ :: rest) ∧
      Course t (t.resume found stage answer) rest (e.finish t w s stage).1
        (e.finish t w s stage).2.1 := by
  obtain ⟨answer, found, next, ha⟩ : ∃ answer found next,
      e.answer stage.call w s = (answer, found, next) := ⟨_, _, _, rfl⟩
  have ho : e.observed.answer stage.call w (s, seen) =
      (answer, found, next, seen ++ [.call ⟨stage.call, w, answer, found⟩]) := by
    simp only [observed, ha]
  refine ⟨answer, found, ?_⟩
  cases hp : (t.resume found stage answer).progress with
  | returned result =>
    refine ⟨(t.resume found stage answer).events.map .event, ?_, ?_⟩
    · rw [finish_returned ha hp, finish_returned ho hp, publishAll_observed, List.append_assoc,
        List.singleton_append]
    · rw [finish_returned ha hp]
      exact .ends hp
  | waiting later =>
    obtain ⟨reply, met, rest, same, course⟩ :=
      finish_observed e t (t.resume found stage answer).world
        (e.publishAll (t.resume found stage answer).events next)
        (seen ++ [.call ⟨stage.call, w, answer, found⟩] ++
          (t.resume found stage answer).events.map .event) later
    refine ⟨(t.resume found stage answer).events.map .event ++
      .call ⟨later.call, (t.resume found stage answer).world, reply, met⟩ :: rest, ?_, ?_⟩
    · rw [finish_waiting ha hp, finish_waiting ho hp, publishAll_observed, same]
      simp only [List.append_assoc, List.cons_append, List.nil_append]
    · rw [finish_waiting ha hp]
      exact .goesOn hp course
termination_by stage.distance
decreasing_by exact t.resume_below found stage answer later hp

/-- Watching an execution changes nothing, and what is seen is the course of its first turn. -/
theorem execute_observed (e : Surroundings σ) (output : NodeId) (w : World) (s : σ) :
    e.observed.execute output w (s, []) =
        ((e.execute output w s).1, (e.execute output w s).2.1, (e.execute output w s).2.2,
          e.trace output w s) ∧
      Course ⟨w.workflow.id, output⟩ (w.trigger output) (e.trace output w s)
        (e.execute output w s).1 (e.execute output w s).2.1 := by
  cases hp : (w.trigger output).progress with
  | returned result =>
    simp only [trace, execute, hp, publishAll_observed, List.nil_append]
    exact ⟨trivial, .ends hp⟩
  | waiting stage =>
    obtain ⟨answer, found, rest, same, course⟩ :=
      finish_observed e ⟨w.workflow.id, output⟩ (w.trigger output).world
        (e.publishAll (w.trigger output).events s) ((w.trigger output).events.map .event) stage
    simp only [trace, execute, hp, publishAll_observed, List.nil_append, same]
    exact ⟨trivial, .goesOn hp course⟩

/-- An execution that comes to anything but a rejection was let in. -/
theorem execute_entered (e : Surroundings σ) {output : NodeId} {w : World} {s : σ}
    (other : (e.execute output w s).1 ≠ .error (.alreadyRunning output)) :
    ∃ entered, w.enter? output = some entered := by
  refine Option.ne_none_iff_exists'.1 fun rejected => other ?_
  have course := (e.execute_observed output w s).2
  rw [World.trigger_rejected rejected] at course
  exact (course.of_returned rfl).2.1

/-! ### What surroundings keep to -/

section

variable {e : Surroundings σ} {I : σ → Prop} (answers : ∀ c w s, I s → I (e.answer c w s).2.2)
  (publishes : ∀ event s, I s → I (e.publish event s).2)
include publishes

theorem publishAll_keeps (events : List Event) {s : σ} (h : I s) : I (e.publishAll events s) := by
  induction events generalizing s with
  | nil => exact h
  | cons event rest ih => exact ih (publishes event s h)

include answers

theorem finish_keeps (t : Trigger) (w : World) {s : σ} (stage : Stage) (h : I s) :
    I (e.finish t w s stage).2.2 := by
  obtain ⟨answer, found, next, ha⟩ : ∃ answer found next,
      e.answer stage.call w s = (answer, found, next) := ⟨_, _, _, rfl⟩
  have kept : I next := by
    have after := answers stage.call w s h
    rwa [ha] at after
  have told := publishAll_keeps publishes (t.resume found stage answer).events kept
  cases hp : (t.resume found stage answer).progress with
  | returned result =>
    rw [finish_returned ha hp]
    exact told
  | waiting later =>
    rw [finish_waiting ha hp]
    exact finish_keeps t (t.resume found stage answer).world later told
termination_by stage.distance
decreasing_by exact t.resume_below found stage answer later hp

theorem execute_keeps (output : NodeId) (w : World) {s : σ} (h : I s) :
    I (e.execute output w s).2.2 := by
  have told := publishAll_keeps publishes (w.trigger output).events h
  cases hp : (w.trigger output).progress with
  | returned result =>
    simp only [execute, hp]
    exact told
  | waiting stage =>
    simp only [execute, hp]
    exact finish_keeps answers publishes _ _ stage told

end

/-- What holds of every answer in every world holds of all that is seen of an execution. -/
theorem of_mem_interludes {e : Surroundings σ} {P : Interlude → Prop}
    (h : ∀ c w s, P ⟨c, w, (e.answer c w s).1, (e.answer c w s).2.1⟩) {output : NodeId} {w : World}
    {s : σ} {i : Interlude} (hi : i ∈ (e.trace output w s).interludes) : P i := by
  let I : σ × Trace → Prop := fun s => ∀ i ∈ s.2.interludes, P i
  have answers : ∀ c w s, I s → I (e.observed.answer c w s).2.2 := by
    intro c w s hs i hi
    obtain hi | hi := List.mem_append.1 (Trace.interludes_append _ _ ▸ hi)
    · exact hs i hi
    · rw [List.mem_singleton.1 hi]
      exact h c w s.1
  have publishes : ∀ event s, I s → I (e.observed.publish event s).2 := by
    intro event s hs i hi
    obtain hi | hi := List.mem_append.1 (Trace.interludes_append _ _ ▸ hi)
    · exact hs i hi
    · cases hi
  exact execute_keeps answers publishes output w (fun i hi => (List.not_mem_nil hi).elim) i hi

end Surroundings

end ImageGraph
