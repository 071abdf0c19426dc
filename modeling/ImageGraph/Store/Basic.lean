import ImageGraph.Store.Record

/-!
The store of records, with an index from each output node to the record created last for it.
-/

namespace ImageGraph

inductive StoreError where
  | notFound (id : RecordId)
  | invalidTransition (id : RecordId) (before after : Status)
  deriving Repr, DecidableEq

def StoreError.message : StoreError → String
  | notFound id => "Generation '" ++ id ++ "' not found"
  | invalidTransition id before after =>
    "Generation '" ++ id ++ "' cannot move from " ++ before.name ++ " to " ++ after.name

structure Store where
  records : List Record := []
  latest : List (String × RecordId) := []
  /-- How many records have been created, as in `Record.seq` without a bound of 64 bits. -/
  nextSeq : Nat := 0

namespace Store

def get? (s : Store) (id : RecordId) : Option Record :=
  s.records.find? fun r => r.id == id

/-- The record created last for an output node. -/
def latest? (s : Store) (output : String) : Option Record :=
  (s.latest.lookup output).bind s.get?

/-- The records of a workflow in the order of creation. -/
def recordsOf (s : Store) (workflow : String) : List Record :=
  (s.records.filter fun r => r.workflowId == workflow).mergeSort fun a b => a.seq ≤ b.seq

def size (s : Store) : Nat :=
  s.records.length

/-- Enters a value under a key, in place of an earlier one. -/
def enter (key : String) (value : α) (index : List (String × α)) : List (String × α) :=
  (key, value) :: index.filter fun e => e.1 ≠ key

/-- Adds an idle record under a fresh id and makes it the latest of its output node. -/
def create (s : Store) (id : RecordId) (now : Timestamp) (workflow output : String)
    (request : Json) : Record × Store :=
  let record : Record := {
    id, workflowId := workflow, outputNodeId := output, request, response := none
    status := .idle, createdAt := now, startedAt := none, endedAt := none, error := none
    seq := s.nextSeq }
  (record, {
    records := record :: s.records.filter fun r => r.id ≠ id
    latest := enter output id s.latest
    nextSeq := s.nextSeq + 1 })

/-- Puts a record in the place of the one with its id. -/
def replace (record : Record) (records : List Record) : List Record :=
  records.map fun r => if r.id = record.id then record else r

/-- Moves a record to another status and applies `change` to it. -/
def transition (s : Store) (id : RecordId) (next : Status) (change : Record → Record) :
    Except StoreError (Record × Store) :=
  match s.get? id with
  | none => .error (.notFound id)
  | some r =>
    if r.status.mayBecome next then
      let changed := change { r with status := next }
      .ok (changed, { s with records := replace changed s.records })
    else .error (.invalidTransition id r.status next)

def markRunning (s : Store) (now : Timestamp) (id : RecordId) :
    Except StoreError (Record × Store) :=
  s.transition id .running fun r => { r with startedAt := some now }

def markSucceeded (s : Store) (now : Timestamp) (id : RecordId) (response : Json) :
    Except StoreError (Record × Store) :=
  s.transition id .succeeded fun r => { r with response := some response, endedAt := some now }

def markFailed (s : Store) (now : Timestamp) (id : RecordId) (error : String) :
    Except StoreError (Record × Store) :=
  s.transition id .failed fun r => { r with error := some error, endedAt := some now }

/-- Bookkeeping alone: nothing under way is stopped. -/
def markCanceled (s : Store) (now : Timestamp) (id : RecordId) :
    Except StoreError (Record × Store) :=
  s.transition id .canceled fun r => { r with endedAt := some now }

/-- Takes a record into account: the one created last wins. -/
def latestStep (index : List (String × (Nat × RecordId))) (r : Record) :
    List (String × (Nat × RecordId)) :=
  match index.lookup r.outputNodeId with
  | some (seq, _) => if seq < r.seq then enter r.outputNodeId (r.seq, r.id) index else index
  | none => enter r.outputNodeId (r.seq, r.id) index

/-- The index of the given records, which may come in any order. -/
def indexOf (records : List Record) : List (String × RecordId) :=
  (records.foldl latestStep []).map fun e => (e.1, e.2.2)

/-- Removes the records of a workflow and counts them. -/
def clear (s : Store) (workflow : String) : Nat × Store :=
  let kept := s.records.filter fun r => r.workflowId ≠ workflow
  (s.records.length - kept.length, { s with records := kept, latest := indexOf kept })

end Store

end ImageGraph
