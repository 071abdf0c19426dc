import ImageGraph.Proofs.Execution.Interleaving

/-! Executions that run side by side, with an account of each: the worlds that it found and left at
its turns, and how far it got. Accounts are kept after an execution has returned. They change
nothing: every schedule is the run of a ledger. -/

namespace ImageGraph

open Relation

structure Account where
  trigger : Trigger
  /-- The worlds that a turn began and ended with. -/
  turns : List (World × World)
  progress : Progress

namespace Account

/-- The account of an execution after its first turn. -/
def start (t : Trigger) (w : World) (turn : Turn) : Account :=
  ⟨t, [(w, turn.world)], turn.progress⟩

def goOn (a : Account) (w : World) (turn : Turn) : Account :=
  ⟨a.trigger, a.turns ++ [(w, turn.world)], turn.progress⟩

/-- The names that an execution gave to records. -/
def created (a : Account) : List RecordId :=
  a.turns.flatMap fun p => p.1.namesUntil p.2

def waiting? (a : Account) : Option Waiting :=
  match a.progress with
  | .waiting stage => some ⟨a.trigger, stage⟩
  | .returned _ => none

@[simp] theorem created_goOn (a : Account) (w : World) (turn : Turn) :
    (a.goOn w turn).created = a.created ++ w.namesUntil turn.world := by
  simp [created, goOn]

theorem progress_of_waiting? {a : Account} {p : Waiting} (h : a.waiting? = some p) :
    a.trigger = p.trigger ∧ a.progress = .waiting p.stage := by
  unfold waiting? at h
  split at h
  · rename_i hp
    cases h
    exact ⟨rfl, hp⟩
  · cases h

end Account

/-- A world with the accounts of all executions there have been, in the order of their triggers. -/
structure Ledger where
  world : World
  accounts : List Account := []

namespace Ledger

variable {others : World → World → Prop}

/-- What an executor shows of a ledger. -/
def executor (x : Ledger) : Executor :=
  ⟨x.world, x.accounts.filterMap Account.waiting?⟩

/-- The steps of an executor, with the account of the execution whose turn it is. -/
inductive Step (others : World → World → Prop) : Ledger → Ledger → Prop where
  | trigger (x : Ledger) (output : NodeId) :
      Step others x
        { world := (x.world.trigger output).world
          accounts := x.accounts ++
            [.start ⟨x.world.workflow.id, output⟩ x.world (x.world.trigger output)] }
  | answer {w : World} {before after : List Account} {a : Account} {stage : Stage}
      (answer : stage.call.Answer) :
      a.progress = .waiting stage →
      Step others ⟨w, before ++ a :: after⟩
        { world := (a.trigger.resume w stage answer).world
          accounts := before ++ a.goOn w (a.trigger.resume w stage answer) :: after }
  | other {w w' : World} {accounts : List Account} :
      others w w' → Step others ⟨w, accounts⟩ ⟨w', accounts⟩

abbrev Run (others : World → World → Prop) : Ledger → Ledger → Prop :=
  ReflTransGen (Step others)

/-- A turn is entered where the executor settles it. -/
private theorem settle_eq (before after : List Account) (a : Account) (turn : Turn)
    (h : a.progress = turn.progress) :
    Executor.settle (before.filterMap Account.waiting?) (after.filterMap Account.waiting?) a.trigger
      turn = executor ⟨turn.world, before ++ a :: after⟩ := by
  rw [Executor.settle, executor, List.filterMap_append, List.filterMap_cons, Account.waiting?, h]
  cases turn.progress <;> rfl

/-- Whatever step an executor takes can be entered in the ledger. -/
theorem exists_step {x : Ledger} {y : Executor} (h : Executor.Step others x.executor y) :
    ∃ z, Step others x z ∧ z.executor = y := by
  obtain ⟨w, accounts⟩ := x
  generalize hx : executor ⟨w, accounts⟩ = shown at h
  cases h with
  | trigger _ output =>
    subst hx
    refine ⟨_, .trigger ⟨w, accounts⟩ output, ?_⟩
    rw [← settle_eq accounts [] (.start ⟨w.workflow.id, output⟩ w (w.trigger output)) _ rfl]
    rfl
  | answer w' before after t answer =>
    -- Who waits next to it may stand far from it in the ledger, with others that have returned.
    obtain ⟨rfl, listed⟩ := Executor.mk.inj hx
    obtain ⟨front, back, rfl, rfl, hb⟩ := List.filterMap_eq_append_iff.1 listed
    obtain ⟨skipped, a, rest, rfl, none_waits, ha, rfl⟩ := List.filterMap_eq_cons_iff.1 hb
    obtain ⟨rfl, hp⟩ := Account.progress_of_waiting? ha
    have placed : Step others ⟨w, (front ++ skipped) ++ a :: rest⟩ _ := .answer answer hp
    rw [List.append_assoc] at placed
    refine ⟨_, placed, ?_⟩
    have skip : skipped.filterMap Account.waiting? = [] :=
      List.filterMap_eq_nil_iff.2 none_waits
    rw [← settle_eq (front ++ skipped) rest _ _ rfl, List.filterMap_append, skip, List.append_nil]
    rfl
  | other outside =>
    obtain ⟨rfl, rfl⟩ := Executor.mk.inj hx
    exact ⟨_, .other outside, rfl⟩

theorem exists_run {w : World} {y : Executor} (h : Executor.Schedule others ⟨w, []⟩ y) :
    ∃ x, Run others ⟨w, []⟩ x ∧ x.executor = y := by
  induction h with
  | refl => exact ⟨_, .refl, rfl⟩
  | tail _ last ih =>
    obtain ⟨x, run, rfl⟩ := ih
    obtain ⟨z, step, same⟩ := exists_step last
    exact ⟨z, run.tail step, same⟩

end Ledger

end ImageGraph
