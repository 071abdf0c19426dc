import ImageGraph.Execution.Run
import ImageGraph.Rehearsal.Script

/-!
Executions rehearsed against a scripted service. The actions within a reply may start executions in
turn; how deep these nest is bounded by the number of replies.
-/

namespace ImageGraph

/-- Performs the actions of a reply. -/
abbrev Player := List Action → World → Script → List Outcome × World × Script

/-- A service that follows a script, and has the actions in it performed by `player`. -/
def Player.surroundings (player : Player) : Surroundings Script where
  answer c w s :=
    let (reply, s) := s.take c
    let place := s.calls.length
    let s := { s with calls := s.calls ++ [⟨c, []⟩] }
    let (outcomes, w, s) := player reply.hooks w s
    (reply.answer s.fallback c, w, { s with calls := s.calls.set place ⟨c, outcomes⟩ })
  publish := Script.publish

def Action.perform (e : Surroundings Script) (w : World) (s : Script) :
    Action → Outcome × World × Script
  | execute output =>
    let (result, w, s) := e.execute output w s
    (.executed result, w, s)
  | command c =>
    let (outcome, w) := c.perform w
    (outcome, w, s)

/-- Performs actions one after the other. -/
def Action.performAll (e : Surroundings Script) : Player
  | [], w, s => ([], w, s)
  | action :: rest, w, s =>
    let (outcome, w, s) := action.perform e w s
    let (outcomes, w, s) := performAll e rest w s
    (outcome :: outcomes, w, s)

namespace Rehearsal

/-- A player for actions that start executions at most `depth` deep inside one another. -/
def player : Nat → Player
  | 0 => fun _ w s => ([], w, s)
  | depth + 1 => Action.performAll (player depth).surroundings

/-- The nodes whose data differs, with the data they have now. -/
def changed (before after : Workflow) : List (NodeId × Json) :=
  (before.nodes.zip after.nodes).filterMap fun (b, a) =>
    if b.data.same a.data then none else some (a.id, a.data)

/-- What an action of the host came to. -/
structure Report where
  outcome : Outcome
  changed : List (NodeId × Json)
  calls : List CallEntry
  events : List Event

/-- Performs actions one after the other, each with a report of its own. -/
def reports (e : Surroundings Script) (w : World) (s : Script) : List Action → List Report
  | [] => []
  | action :: rest =>
    let (outcome, after, s) := action.perform e w s
    { outcome, changed := changed w.workflow after.workflow, calls := s.calls, events := s.events }
      :: reports e after { s with calls := [], events := [] } rest

/-- Performs the actions of a host. Executions inside one another use up a reply each, so the
number of replies bounds how deep they go. -/
def run (w : World) (s : Script) (actions : List Action) : List Report :=
  reports (player s.size).surroundings w s actions

end Rehearsal

end ImageGraph
