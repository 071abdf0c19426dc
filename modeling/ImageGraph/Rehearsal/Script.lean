import ImageGraph.Event
import ImageGraph.Rehearsal.Action

/-!
Scripts for the remote service: a queue of replies for each method. A reply may have the host act
while the service works on the call.
-/

namespace ImageGraph

/-- A scripted reply. Without a result the service answers as the script says for every call. -/
structure Reply where
  hooks : List Action := []
  result : Option (Except ServiceError Json) := none

/-- A call as the service saw it, with what came of the actions during it. -/
structure CallEntry where
  call : ServiceCall
  outcomes : List Outcome

inductive SinkKind where
  | collecting
  | discarding
  /-- Collects, and fails all the same. -/
  | failing
  deriving DecidableEq

structure Script where
  replies : List (String × List Reply)
  /-- The answer to a call that no reply gives a result for. -/
  fallback : (c : ServiceCall) → c.Result
  sink : SinkKind
  calls : List CallEntry := []
  events : List Event := []

/-- The queues that may hold the reply to a call, the more specific first. -/
def ServiceCall.queues : ServiceCall → List String
  | upload data => ["upload:" ++ data, "upload"]
  | preprocess image _ => ["preprocess:" ++ image, "preprocess"]
  | main step => [step.method.name]

namespace Reply

open Json

/-- A scripted value as the result of a call. -/
def valueFor (value : Json) : (c : ServiceCall) → c.Result
  | .upload _ =>
    (⟨((value.field? "id").bind string?).getD "", ((value.field? "url").bind string?).getD ""⟩ :
      UploadedImage)
  | .preprocess _ _ => value.string?.getD ""
  | .main _ => value

def answer (r : Reply) (fallback : (c : ServiceCall) → c.Result) (c : ServiceCall) : c.Answer :=
  match r.result with
  | none => .ok (fallback c)
  | some (.ok value) => .ok (valueFor value c)
  | some (.error e) => .error e

end Reply

namespace Script

/-- The first reply of a queue, and the queues without it. -/
def takeFrom? (name : String) :
    List (String × List Reply) → Option (Reply × List (String × List Reply))
  | [] => none
  | (n, queue) :: rest =>
    match n == name, queue with
    | true, reply :: queue => some (reply, (n, queue) :: rest)
    | _, _ => (takeFrom? name rest).map fun (reply, rest) => (reply, (n, queue) :: rest)

/-- Takes the reply to a call off its queue; an empty reply if all its queues are empty. -/
def take (s : Script) (c : ServiceCall) : Reply × Script :=
  match c.queues.findSome? fun name => takeFrom? name s.replies with
  | some (reply, replies) => (reply, { s with replies })
  | none => ({}, s)

def publish (event : Event) (s : Script) : Except SinkError Unit × Script :=
  match s.sink with
  | .discarding => (.ok (), s)
  | .collecting => (.ok (), { s with events := s.events ++ [event] })
  | .failing => (.error ⟨"sink closed"⟩, { s with events := s.events ++ [event] })

/-- How many replies the script holds. -/
def size (s : Script) : Nat :=
  (s.replies.flatMap Prod.snd).length

end Script

end ImageGraph
