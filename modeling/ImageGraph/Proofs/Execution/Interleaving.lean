import Mathlib.Logic.Relation
import ImageGraph.Proofs.Execution.Trace
import ImageGraph.Rehearsal.Run

/-! Executions that run side by side. Between two service calls an execution is not interrupted;
while it waits, others may start and go on, and the host may act. Executions that a service starts
while it works on a call of another are such a schedule too. -/

namespace ImageGraph

open Relation

/-- An execution in progress, with the service call that it waits for. -/
structure Waiting where
  trigger : Trigger
  stage : Stage

/-- A world with the executions in progress on it. -/
structure Executor where
  world : World
  waiting : List Waiting := []

namespace Executor

/-- The output nodes of the executions in progress. -/
def outputs (x : Executor) : List NodeId :=
  x.waiting.map fun p => p.trigger.output

/-- What a turn comes to among the executions that wait: if it waits too, it stands between
those before and those after. -/
def settle (before after : List Waiting) (t : Trigger) (turn : Turn) : Executor where
  world := turn.world
  waiting :=
    match turn.progress with
    | .waiting stage => before ++ ⟨t, stage⟩ :: after
    | .returned _ => before ++ after

/-- A step: an execution is called for, or one gets the answer that it waits for, or others change
the world in a way that is open to them. -/
inductive Step (others : World → World → Prop) : Executor → Executor → Prop where
  | trigger (x : Executor) (output : NodeId) :
      Step others x
        (settle x.waiting [] ⟨x.world.workflow.id, output⟩ (x.world.trigger output))
  | answer (w : World) (before after : List Waiting) (t : Trigger) {stage : Stage}
      (answer : stage.call.Answer) :
      Step others ⟨w, before ++ ⟨t, stage⟩ :: after⟩
        (settle before after t (t.resume w stage answer))
  | other {w w' : World} {waiting : List Waiting} :
      others w w' → Step others ⟨w, waiting⟩ ⟨w', waiting⟩

/-- Steps in any number and in any order. -/
abbrev Schedule (others : World → World → Prop) : Executor → Executor → Prop :=
  ReflTransGen (Step others)

end Executor

open Executor

namespace Surroundings

variable {σ : Type} {others : World → World → Prop}

/-- All that happens while the service works on a call is a schedule that leaves alone whatever
waited before. -/
def Schedules (e : Surroundings σ) (others : World → World → Prop) : Prop :=
  ∀ c w s waiting, Schedule others ⟨w, waiting⟩ ⟨(e.answer c w s).2.1, waiting⟩

theorem finish_schedules {e : Surroundings σ} (he : e.Schedules others) (t : Trigger) (w : World)
    (s : σ) (stage : Stage) (waiting : List Waiting) :
    Schedule others ⟨w, waiting ++ [⟨t, stage⟩]⟩ ⟨(e.finish t w s stage).2.1, waiting⟩ := by
  obtain ⟨answer, found, next, ha⟩ : ∃ answer found next,
      e.answer stage.call w s = (answer, found, next) := ⟨_, _, _, rfl⟩
  have served := he stage.call w s (waiting ++ [⟨t, stage⟩])
  rw [ha] at served
  have answered : Step others _ _ := .answer found waiting [] t answer
  cases hp : (t.resume found stage answer).progress with
  | returned result =>
    rw [finish_returned ha hp]
    rw [settle, hp, List.append_nil] at answered
    exact served.tail answered
  | waiting later =>
    rw [finish_waiting ha hp]
    rw [settle, hp] at answered
    exact (served.tail answered).trans (finish_schedules he t _ _ later waiting)
termination_by stage.distance
decreasing_by exact t.resume_below found stage answer later hp

/-- An execution against a service whose doings are schedules is a schedule itself. -/
theorem execute_schedules {e : Surroundings σ} (he : e.Schedules others) (output : NodeId)
    (w : World) (s : σ) (waiting : List Waiting) :
    Schedule others ⟨w, waiting⟩ ⟨(e.execute output w s).2.1, waiting⟩ := by
  have begun : Step others _ _ := .trigger ⟨w, waiting⟩ output
  cases hp : (w.trigger output).progress with
  | returned result =>
    simp only [execute, hp]
    rw [settle, hp, List.append_nil] at begun
    exact .single begun
  | waiting stage =>
    simp only [execute, hp]
    rw [settle, hp] at begun
    exact .head begun (finish_schedules he _ _ _ stage waiting)

end Surroundings

/-- What the host and the service may do to a world: anything but change the settings, and take or
give back output nodes. -/
def World.Outside (w w' : World) : Prop :=
  w'.settings = w.settings ∧ w'.inFlight = w.inFlight

theorem World.markFor_outside (w : World)
    (change : Store → Except StoreError (Record × Store)) : w.Outside (w.markFor change).2 := by
  simp only [markFor, World.mark]
  cases change w.store <;> exact ⟨rfl, rfl⟩

theorem Command.perform_outside (w : World) (c : Command) : w.Outside (c.perform w).2 := by
  cases c with
  | update node patch =>
    simp only [perform]
    split <;> exact ⟨rfl, rfl⟩
  | markRunning id => exact w.markFor_outside _
  | markSucceeded id response => exact w.markFor_outside _
  | markFailed id error => exact w.markFor_outside _
  | markCanceled id => exact w.markFor_outside _
  | _ => exact ⟨rfl, rfl⟩

section Rehearsal

variable {others : World → World → Prop} (commands : ∀ w c, others w (Command.perform w c).2)
include commands

theorem Action.performAll_schedules {e : Surroundings Script} (he : e.Schedules others)
    (actions : List Action) (w : World) (s : Script) (waiting : List Waiting) :
    Schedule others ⟨w, waiting⟩ ⟨(performAll e actions w s).2.1, waiting⟩ := by
  induction actions generalizing w s with
  | nil => exact .refl
  | cons action rest ih =>
    refine ReflTransGen.trans ?_ (ih (action.perform e w s).2.1 (action.perform e w s).2.2)
    cases action with
    | execute output => exact e.execute_schedules he output w s waiting
    | command c => exact .single (.other (commands w c))

/-- Whatever a rehearsed service has done within its calls, executions inside one another included,
is a schedule. -/
theorem Rehearsal.player_schedules (depth : Nat) :
    (player depth).surroundings.Schedules others := by
  induction depth with
  | zero => exact fun c w s waiting => .refl
  | succ depth ih =>
    exact fun c w s waiting =>
      Action.performAll_schedules commands ih (s.take c).1.hooks w _ waiting

end Rehearsal

end ImageGraph
