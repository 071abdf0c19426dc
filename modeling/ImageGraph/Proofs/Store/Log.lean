import ImageGraph.Store.Basic

/-! What a store goes through, and a plain log beside it. The log only ever grows: it keeps each
record as created, each mark and each clearing, and answers every question by reading them again. -/

namespace ImageGraph

/-- What a record is marked as. -/
inductive Mark where
  | running
  | succeeded (response : Json)
  | failed (error : String)
  | canceled

namespace Mark

def status : Mark → Status
  | running => .running
  | succeeded _ => .succeeded
  | failed _ => .failed
  | canceled => .canceled

/-- What a mark leaves on a record besides the status. -/
def change (m : Mark) (now : Timestamp) (r : Record) : Record :=
  match m with
  | running => { r with startedAt := some now }
  | succeeded response => { r with response := some response, endedAt := some now }
  | failed error => { r with error := some error, endedAt := some now }
  | canceled => { r with endedAt := some now }

def apply (m : Mark) (now : Timestamp) (r : Record) : Record :=
  m.change now { r with status := m.status }

@[simp] theorem apply_id (m : Mark) (now : Timestamp) (r : Record) : (m.apply now r).id = r.id := by
  cases m <;> rfl

@[simp] theorem apply_workflowId (m : Mark) (now : Timestamp) (r : Record) :
    (m.apply now r).workflowId = r.workflowId := by
  cases m <;> rfl

@[simp] theorem apply_outputNodeId (m : Mark) (now : Timestamp) (r : Record) :
    (m.apply now r).outputNodeId = r.outputNodeId := by
  cases m <;> rfl

@[simp] theorem apply_seq (m : Mark) (now : Timestamp) (r : Record) :
    (m.apply now r).seq = r.seq := by
  cases m <;> rfl

/-- Marks the record with an id and no other. -/
def applyTo (m : Mark) (now : Timestamp) (id : RecordId) (r : Record) : Record :=
  if r.id = id then m.apply now r else r

@[simp] theorem applyTo_id (m : Mark) (now : Timestamp) (id : RecordId) (r : Record) :
    (m.applyTo now id r).id = r.id := by
  unfold applyTo
  split <;> simp

@[simp] theorem applyTo_workflowId (m : Mark) (now : Timestamp) (id : RecordId) (r : Record) :
    (m.applyTo now id r).workflowId = r.workflowId := by
  unfold applyTo
  split <;> simp

@[simp] theorem applyTo_outputNodeId (m : Mark) (now : Timestamp) (id : RecordId) (r : Record) :
    (m.applyTo now id r).outputNodeId = r.outputNodeId := by
  unfold applyTo
  split <;> simp

@[simp] theorem applyTo_seq (m : Mark) (now : Timestamp) (id : RecordId) (r : Record) :
    (m.applyTo now id r).seq = r.seq := by
  unfold applyTo
  split <;> simp

end Mark

namespace Store

inductive Operation where
  /-- The id stands for the random one that a creation draws. -/
  | create (id : RecordId) (now : Timestamp) (workflow output : String) (request : Json)
  | mark (m : Mark) (now : Timestamp) (id : RecordId)
  | clear (workflow : String)

/-- The id that an operation gives out. -/
def Operation.newId? : Operation → Option RecordId
  | create id .. => some id
  | _ => none

inductive Answer where
  | created (record : Record)
  | marked (result : Except StoreError Record)
  | cleared (count : Nat)

def mark (s : Store) (m : Mark) (now : Timestamp) (id : RecordId) :
    Except StoreError (Record × Store) :=
  match m with
  | .running => s.markRunning now id
  | .succeeded response => s.markSucceeded now id response
  | .failed error => s.markFailed now id error
  | .canceled => s.markCanceled now id

theorem mark_eq_transition (s : Store) (m : Mark) (now : Timestamp) (id : RecordId) :
    s.mark m now id = s.transition id m.status (m.change now) := by
  cases m <;> rfl

def perform (s : Store) : Operation → Answer × Store
  | .create id now workflow output request =>
    let (record, s) := s.create id now workflow output request
    (.created record, s)
  | .mark m now id =>
    match s.mark m now id with
    | .ok (record, s) => (.marked (.ok record), s)
    | .error e => (.marked (.error e), s)
  | .clear workflow =>
    let (count, s) := s.clear workflow
    (.cleared count, s)

/-- A new store gets there by the operations and gives the answers. Records are kept in no order:
at any time they may be listed in another one. -/
inductive Reached : List Operation → List Answer → Store → Prop where
  | new : Reached [] [] {}
  | perform {ops : List Operation} {answers : List Answer} {s : Store} (op : Operation) :
      Reached ops answers s →
      Reached (ops ++ [op]) (answers ++ [(s.perform op).1]) (s.perform op).2
  | relist {ops : List Operation} {answers : List Answer} {s : Store} {records : List Record} :
      records.Perm s.records → Reached ops answers s → Reached ops answers { s with records }

end Store

/-- What a log takes down: the operations that had an effect. -/
inductive Log.Entry where
  | created (record : Record)
  | marked (m : Mark) (now : Timestamp) (id : RecordId)
  | cleared (workflow : String)

namespace Log.Entry

def clears (workflow : String) : Entry → Bool
  | cleared w => w == workflow
  | _ => false

def creates : Entry → Bool
  | created _ => true
  | _ => false

/-- A record after an entry that comes later. -/
def update (r : Record) : Entry → Record
  | marked m now id => m.applyTo now id r
  | _ => r

@[simp] theorem update_workflowId (r : Record) (e : Entry) :
    (e.update r).workflowId = r.workflowId := by
  cases e <;> simp [update]

end Log.Entry

abbrev Log := List Log.Entry

namespace Log

/-- The records whose workflow has not been cleared since their creation, in the order of creation
and as they are marked by now. -/
def records : Log → List Record
  | [] => []
  | .created r :: later =>
    if later.any (Entry.clears r.workflowId) then records later
    else later.foldl Entry.update r :: records later
  | _ :: later => records later

/-- How many records were ever created. -/
def creations (l : Log) : Nat :=
  l.countP Entry.creates

def find? (l : Log) (id : RecordId) : Option Record :=
  l.records.find? fun r => r.id == id

/-- The answer to an operation, and the log with what is to be added. -/
def perform (l : Log) : Store.Operation → Store.Answer × Log
  | .create id now workflow output request =>
    let record : Record := {
      id, workflowId := workflow, outputNodeId := output, request, response := none
      status := .idle, createdAt := now, startedAt := none, endedAt := none, error := none
      seq := l.creations }
    (.created record, l ++ [.created record])
  | .mark m now id =>
    match l.find? id with
    | none => (.marked (.error (.notFound id)), l)
    | some r =>
      if r.status.mayBecome m.status then
        (.marked (.ok (m.apply now r)), l ++ [.marked m now id])
      else (.marked (.error (.invalidTransition id r.status m.status)), l)
  | .clear workflow =>
    (.cleared (l.records.countP fun r => r.workflowId == workflow), l ++ [.cleared workflow])

/-- The answers to operations on an empty log, and the log after them. -/
def run (ops : List Store.Operation) : List Store.Answer × Log :=
  ops.foldl (fun (answers, l) op => (answers ++ [(l.perform op).1], (l.perform op).2)) ([], [])

theorem run_append (ops : List Store.Operation) (op : Store.Operation) :
    run (ops ++ [op]) =
      ((run ops).1 ++ [((run ops).2.perform op).1], ((run ops).2.perform op).2) := by
  simp [run]

private theorem foldl_update_workflowId (later : List Entry) (r : Record) :
    (later.foldl Entry.update r).workflowId = r.workflowId := by
  induction later generalizing r with
  | nil => rfl
  | cons e later ih => rw [List.foldl_cons, ih, Entry.update_workflowId]

/-- A later entry changes the records one by one, unless it clears or creates. -/
theorem records_append_marked (l : Log) (m : Mark) (now : Timestamp) (id : RecordId) :
    records (l ++ [.marked m now id]) = l.records.map (m.applyTo now id) := by
  induction l with
  | nil => rfl
  | cons e later ih =>
    cases e with
    | created r =>
      rw [List.cons_append]
      simp only [records, List.any_append, List.any_cons, List.any_nil, Entry.clears,
        Bool.or_false]
      split
      · exact ih
      · rw [List.foldl_append, ih]
        rfl
    | marked => exact ih
    | cleared => exact ih

theorem records_append_created (l : Log) (r : Record) :
    records (l ++ [.created r]) = l.records ++ [r] := by
  induction l with
  | nil => rfl
  | cons e later ih =>
    cases e with
    | created q =>
      rw [List.cons_append]
      simp only [records, List.any_append, List.any_cons, List.any_nil, Entry.clears,
        Bool.or_false]
      split
      · exact ih
      · rw [List.foldl_append, ih]
        rfl
    | marked => exact ih
    | cleared => exact ih

theorem records_append_cleared (l : Log) (workflow : String) :
    records (l ++ [.cleared workflow]) = l.records.filter fun r => r.workflowId ≠ workflow := by
  induction l with
  | nil => rfl
  | cons e later ih =>
    cases e with
    | created q =>
      rw [List.cons_append]
      simp only [records, List.any_append, List.any_cons, List.any_nil, Entry.clears,
        Bool.or_false]
      by_cases hl : later.any (Entry.clears q.workflowId)
      · simpa [hl] using ih
      · by_cases hq : q.workflowId = workflow
        · subst hq
          simpa [hl, foldl_update_workflowId] using ih
        · simp [hl, hq, Ne.symm hq, foldl_update_workflowId, ih, Entry.update]
    | marked => exact ih
    | cleared => exact ih

/-- Only a creation brings a new id into the log. -/
theorem mem_perform {l : Log} {op : Store.Operation} {r : Record}
    (hr : r ∈ (l.perform op).2.records) :
    r.id ∈ l.records.map Record.id ∨ op.newId? = some r.id := by
  cases op with
  | create id now workflow output request =>
    rw [perform, records_append_created, List.mem_append, List.mem_singleton] at hr
    rcases hr with hr | rfl
    · exact .inl (List.mem_map_of_mem hr)
    · exact .inr rfl
  | mark m now id =>
    refine .inl ?_
    simp only [perform] at hr
    split at hr
    · exact List.mem_map_of_mem hr
    · split at hr
      · rw [records_append_marked] at hr
        obtain ⟨q, hq, rfl⟩ := List.mem_map.1 hr
        rw [Mark.applyTo_id]
        exact List.mem_map_of_mem hq
      · exact List.mem_map_of_mem hr
  | clear workflow =>
    rw [perform, records_append_cleared, List.mem_filter] at hr
    exact .inl (List.mem_map_of_mem hr.1)

end Log

end ImageGraph
