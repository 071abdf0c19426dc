import ImageGraph.Proofs.Store.Index
import ImageGraph.Proofs.Store.Log
import Mathlib.Data.List.Nodup

/-! The store shows the same as its log. The index that creations keep up and clearings build anew
and the listing by order of creation are both read off the log. -/

namespace ImageGraph.Store

/-- The records of a store are those of a log, and its index leads to the last of each output
node. -/
structure Shows (s : Store) (l : Log) : Prop where
  records : s.records.Perm l.records
  ids : (l.records.map Record.id).Nodup
  order : (l.records.map Record.seq).Pairwise (· < ·)
  bound : ∀ r ∈ l.records, r.seq < l.creations
  count : s.nextSeq = l.creations
  latest : ∀ output, s.latest.lookup output =
    ((l.records.filter fun r => r.outputNodeId == output).getLast?).map Record.id

private theorem find?_id_eq_some_iff {records : List Record} {id : RecordId} {r : Record}
    (h : (records.map Record.id).Nodup) :
    (records.find? fun r => r.id == id) = some r ↔ r ∈ records ∧ r.id = id := by
  constructor
  · intro hr
    have hid : (r.id == id) = true := List.find?_some (p := fun q : Record => q.id == id) hr
    exact ⟨List.mem_of_find?_eq_some hr, eq_of_beq hid⟩
  · rintro ⟨hr, rfl⟩
    induction records with
    | nil => cases hr
    | cons q rest ih =>
      rw [List.map_cons, List.nodup_cons] at h
      rcases List.mem_cons.1 hr with rfl | hr
      · exact List.find?_cons_of_pos (beq_self_eq_true _)
      · have hq : (q.id == r.id) = false :=
          beq_eq_false_iff_ne.2 fun e => h.1 (e ▸ List.mem_map_of_mem hr)
        rw [List.find?_cons_of_neg (by simp [hq])]
        exact ih h.2 hr

private theorem eq_of_seq {records : List Record}
    (order : (records.map Record.seq).Pairwise (· < ·)) :
    ∀ p ∈ records, ∀ q ∈ records, p.seq = q.seq → p = q :=
  fun _ hp _ hq e => List.inj_on_of_nodup_map (order.imp Nat.ne_of_lt) hp hq e

/-- The last record for an output node is the newest in any listing. -/
theorem newest_of_getLast? {records log : List Record} (hp : records.Perm log)
    (order : (log.map Record.seq).Pairwise (· < ·)) {output : String} {r : Record}
    (hl : (log.filter fun r => r.outputNodeId == output).getLast? = some r) :
    Newest records output r := by
  have mem_listed : ∀ q, q ∈ records ∧ q.outputNodeId = output ↔
      q ∈ log.filter fun r => r.outputNodeId == output := fun q => by
    rw [hp.mem_iff, List.mem_filter, beq_iff_eq]
  obtain ⟨front, hf⟩ := List.getLast?_eq_some_iff.1 hl
  obtain ⟨hr, ho⟩ := (mem_listed r).2 (List.mem_of_getLast? hl)
  have before : ∀ q ∈ front, q.seq < r.seq := fun q hq => by
    have sorted := (List.pairwise_map.1 order).filter fun r => r.outputNodeId == output
    rw [hf] at sorted
    exact (List.pairwise_append.1 sorted).2.2 q hq r List.mem_cons_self
  refine ⟨hr, ho, fun q hq hqo => ?_⟩
  have hq' := (mem_listed q).1 ⟨hq, hqo⟩
  rw [hf, List.mem_append, List.mem_singleton] at hq'
  rcases hq' with hq' | rfl
  · exact Nat.le_of_lt (before q hq')
  · exact Nat.le_refl _

theorem forall_ne_of_getLast?_eq_none {records log : List Record} (hp : records.Perm log)
    {output : String}
    (hl : (log.filter fun r => r.outputNodeId == output).getLast? = none) :
    ∀ r ∈ records, r.outputNodeId ≠ output := by
  intro r hr ho
  rw [List.getLast?_eq_none_iff] at hl
  have hm : r ∈ log.filter fun r => r.outputNodeId == output :=
    List.mem_filter.2 ⟨hp.mem_iff.1 hr, beq_iff_eq.2 ho⟩
  exact List.not_mem_nil (hl ▸ hm)

/-- The index finds the last record of each output node. -/
theorem lookup_indexOf_perm {records log : List Record} (hp : records.Perm log)
    (order : (log.map Record.seq).Pairwise (· < ·)) (output : String) :
    (indexOf records).lookup output =
      ((log.filter fun r => r.outputNodeId == output).getLast?).map Record.id := by
  cases hl : (log.filter fun r => r.outputNodeId == output).getLast? with
  | none => exact lookup_indexOf_eq_none (forall_ne_of_getLast?_eq_none hp hl)
  | some r =>
    exact lookup_indexOf_of_newest (newest_of_getLast? hp order hl) fun p hp' q hq' =>
      eq_of_seq order p (hp.mem_iff.1 hp') q (hp.mem_iff.1 hq')

namespace Shows

variable {s : Store} {l : Log} {id : RecordId} {r : Record} {output workflow : String}

theorem ids_records (h : Shows s l) : (s.records.map Record.id).Nodup :=
  (h.records.map Record.id).nodup_iff.2 h.ids

theorem get?_eq_some_iff (h : Shows s l) : s.get? id = some r ↔ r ∈ l.records ∧ r.id = id := by
  rw [get?, find?_id_eq_some_iff h.ids_records, h.records.mem_iff]

theorem find?_eq_get? (h : Shows s l) : l.find? id = s.get? id := by
  apply Option.ext
  intro r
  rw [h.get?_eq_some_iff]
  exact find?_id_eq_some_iff h.ids

theorem eq_of_id (h : Shows s l) : ∀ p ∈ l.records, ∀ q ∈ l.records, p.id = q.id → p = q :=
  fun _ hp _ hq e => List.inj_on_of_nodup_map h.ids hp hq e

theorem latest?_eq (h : Shows s l) :
    s.latest? output = (l.records.filter fun r => r.outputNodeId == output).getLast? := by
  rw [latest?, h.latest]
  cases hl : (l.records.filter fun r => r.outputNodeId == output).getLast? with
  | none => rfl
  | some r => exact h.get?_eq_some_iff.2 ⟨(List.mem_filter.1 (List.mem_of_getLast? hl)).1, rfl⟩

theorem latest?_eq_none_iff (h : Shows s l) :
    s.latest? output = none ↔ ∀ r ∈ s.records, r.outputNodeId ≠ output := by
  constructor
  · intro hn
    exact forall_ne_of_getLast?_eq_none h.records (h.latest?_eq ▸ hn)
  · intro hn
    rw [h.latest?_eq, List.getLast?_eq_none_iff, List.filter_eq_nil_iff]
    intro r hr
    simpa using hn r (h.records.mem_iff.2 hr)

theorem latest?_eq_some_iff (h : Shows s l) :
    s.latest? output = some r ↔ Newest s.records output r := by
  constructor
  · intro hr
    exact newest_of_getLast? h.records h.order (h.latest?_eq ▸ hr)
  · intro newest
    cases hl : s.latest? output with
    | none => exact absurd newest.output_eq (h.latest?_eq_none_iff.1 hl r newest.mem)
    | some q =>
      have last := newest_of_getLast? h.records h.order (h.latest?_eq ▸ hl)
      have le : q.seq ≤ r.seq := newest.seq_le q last.mem last.output_eq
      have ge : r.seq ≤ q.seq := last.seq_le r newest.mem newest.output_eq
      rw [eq_of_seq h.order q (h.records.mem_iff.1 last.mem) r (h.records.mem_iff.1 newest.mem)
        (Nat.le_antisymm le ge)]

theorem recordsOf_eq (h : Shows s l) :
    s.recordsOf workflow = l.records.filter fun r => r.workflowId == workflow := by
  have kept : (s.records.filter fun r => r.workflowId == workflow).Perm
      (l.records.filter fun r => r.workflowId == workflow) :=
    h.records.filter _
  have sorted : (s.recordsOf workflow).Pairwise fun p q => p.seq ≤ q.seq := by
    have bySeq : ((s.records.filter fun r => r.workflowId == workflow).mergeSort
        fun a b => a.seq ≤ b.seq).Pairwise fun p q => decide (p.seq ≤ q.seq) :=
      List.pairwise_mergeSort (fun a b c => by simpa using Nat.le_trans)
        (fun a b => by simpa using Nat.le_total _ _) _
    simpa [recordsOf] using bySeq
  have listed : (l.records.filter fun r => r.workflowId == workflow).Pairwise
      fun p q => p.seq ≤ q.seq :=
    ((List.pairwise_map.1 h.order).filter _).imp Nat.le_of_lt
  refine List.Perm.eq_of_pairwise (fun p q hp hq hpq hqp => ?_) sorted listed
    ((List.mergeSort_perm _ _).trans kept)
  have hp' := kept.mem_iff.1 ((List.mergeSort_perm _ _).mem_iff.1 hp)
  exact eq_of_seq h.order p (List.mem_filter.1 hp').1 q (List.mem_filter.1 hq).1
    (Nat.le_antisymm hpq hqp)

theorem size_eq (h : Shows s l) : s.size = l.records.length :=
  h.records.length_eq

theorem relist {records : List Record} (hp : records.Perm s.records) (h : Shows s l) :
    Shows { s with records } l :=
  { h with records := hp.trans h.records }

private theorem creations_append (l : Log) (e : Log.Entry) :
    Log.creations (l ++ [e]) = l.creations + if e.creates then 1 else 0 := by
  simp [Log.creations, List.countP_append, List.countP_cons]

theorem create (h : Shows s l) {now : Timestamp} {request : Json}
    (fresh : id ∉ l.records.map Record.id) :
    let op := Operation.create id now workflow output request
    (s.perform op).1 = (l.perform op).1 ∧ Shows (s.perform op).2 (l.perform op).2 := by
  have kept : (s.records.filter fun r => r.id ≠ id) = s.records := by
    refine List.filter_eq_self.2 fun r hr => ?_
    have : r.id ≠ id := fun e => fresh (e ▸ List.mem_map_of_mem (h.records.mem_iff.1 hr))
    simpa using this
  refine ⟨by simp only [Store.perform, Store.create, Log.perform, h.count], ?_⟩
  simp only [Store.perform, Store.create, Log.perform, kept, h.count]
  constructor <;> simp only [Log.records_append_created, creations_append, Log.Entry.creates,
    if_true]
  case records => exact (h.records.cons _).trans (List.perm_append_singleton _ _).symm
  case ids => simpa [List.nodup_append, h.ids] using fresh
  case order =>
    rw [List.map_append, List.pairwise_append]
    refine ⟨h.order, List.pairwise_singleton _ _, fun a ha b hb => ?_⟩
    obtain ⟨r, hr, rfl⟩ := List.mem_map.1 ha
    rw [List.mem_singleton.1 hb]
    exact h.bound r hr
  case bound =>
    intro r hr
    rcases List.mem_append.1 hr with hr | hr
    · exact Nat.lt_succ_of_lt (h.bound r hr)
    · rw [List.mem_singleton.1 hr]
      exact Nat.lt_succ_self _
  case latest =>
    intro n
    rw [lookup_enter, List.filter_append]
    by_cases hn : n = output
    · simp [hn]
    · simp [hn, Ne.symm hn, h.latest]

/-- Marking keeps what the log says of ids, order and outputs, so only the records change. -/
theorem mark (h : Shows s l) (m : Mark) (now : Timestamp) (id : RecordId) :
    (s.perform (.mark m now id)).1 = (l.perform (.mark m now id)).1 ∧
      Shows (s.perform (.mark m now id)).2 (l.perform (.mark m now id)).2 := by
  simp only [Store.perform, Log.perform, mark_eq_transition, transition, h.find?_eq_get?]
  cases hr : s.get? id with
  | none => exact ⟨rfl, h⟩
  | some r =>
    obtain ⟨hmem, rfl⟩ := h.get?_eq_some_iff.1 hr
    dsimp only
    by_cases hm : r.status.mayBecome m.status
    · simp only [hm, if_true]
      refine ⟨rfl, ?_⟩
      have replaced : replace (m.apply now r) s.records = s.records.map (m.applyTo now r.id) := by
        refine List.map_congr_left fun q hq => ?_
        rw [Mark.apply_id, Mark.applyTo]
        split
        · rename_i hid
          rw [h.eq_of_id q (h.records.mem_iff.1 hq) r hmem hid]
        · rfl
      constructor <;> simp only [Log.records_append_marked, creations_append, Log.Entry.creates,
        Bool.false_eq_true, if_false, Nat.add_zero, List.map_map]
      case records =>
        change (replace (m.apply now r) s.records).Perm _
        rw [replaced]
        exact h.records.map _
      case ids => simpa [Function.comp_def] using h.ids
      case order => simpa [Function.comp_def] using h.order
      case bound =>
        intro q hq
        obtain ⟨p, hp, rfl⟩ := List.mem_map.1 hq
        rw [Mark.applyTo_seq]
        exact h.bound p hp
      case count => exact h.count
      case latest =>
        intro n
        rw [h.latest, List.filter_map]
        simp [Function.comp_def]
    · simp only [hm, Bool.false_eq_true, if_false]
      exact ⟨trivial, h⟩

theorem clear (h : Shows s l) (workflow : String) :
    (s.perform (.clear workflow)).1 = (l.perform (.clear workflow)).1 ∧
      Shows (s.perform (.clear workflow)).2 (l.perform (.clear workflow)).2 := by
  have counted : s.records.length - (s.records.filter fun r => r.workflowId ≠ workflow).length =
      l.records.countP fun r => r.workflowId == workflow := by
    rw [← h.records.countP_eq, ← List.countP_eq_length_filter]
    have := List.length_eq_countP_add_countP (fun r : Record => r.workflowId == workflow)
      (l := s.records)
    simp only [ne_eq, decide_not, beq_iff_eq] at this ⊢
    omega
  have kept := h.records.filter fun r => r.workflowId ≠ workflow
  refine ⟨congrArg Answer.cleared counted, ?_⟩
  simp only [Store.perform, Store.clear, Log.perform]
  constructor <;> simp only [Log.records_append_cleared, creations_append, Log.Entry.creates,
    Bool.false_eq_true, if_false, Nat.add_zero]
  case records => exact kept
  case ids => exact h.ids.sublist (List.filter_sublist.map _)
  case order => exact h.order.sublist (List.filter_sublist.map _)
  case bound => exact fun r hr => h.bound r (List.mem_filter.1 hr).1
  case count => exact h.count
  case latest => exact lookup_indexOf_perm kept (h.order.sublist (List.filter_sublist.map _))

theorem perform (h : Shows s l) (op : Operation)
    (fresh : ∀ id, op.newId? = some id → id ∉ l.records.map Record.id) :
    (s.perform op).1 = (l.perform op).1 ∧ Shows (s.perform op).2 (l.perform op).2 := by
  cases op with
  | create id now workflow output request => exact h.create (fresh id rfl)
  | mark m now id => exact h.mark m now id
  | clear workflow => exact h.clear workflow

end Shows

theorem shows_new : Shows {} [] where
  records := .nil
  ids := List.nodup_nil
  order := .nil
  bound := fun _ h => absurd h List.not_mem_nil
  count := rfl
  latest := fun _ => rfl

/-- The ids of the log are among those given out, so that a fresh one is new to it. -/
theorem Reached.shows {ops : List Operation} {answers : List Answer} {s : Store}
    (h : Reached ops answers s) (fresh : (ops.filterMap Operation.newId?).Nodup) :
    answers = (Log.run ops).1 ∧ Shows s (Log.run ops).2 ∧
      ∀ r ∈ (Log.run ops).2.records, r.id ∈ ops.filterMap Operation.newId? := by
  induction h with
  | new => exact ⟨rfl, shows_new, fun _ h => absurd h List.not_mem_nil⟩
  | @perform ops answers s op _ ih =>
    rw [List.filterMap_append, List.nodup_append] at fresh
    obtain ⟨before, -, apart⟩ := fresh
    obtain ⟨agree, shown, known⟩ := ih before
    have unseen : ∀ id, op.newId? = some id → id ∉ (Log.run ops).2.records.map Record.id := by
      intro id hid hmem
      obtain ⟨r, hr, rfl⟩ := List.mem_map.1 hmem
      exact apart r.id (known r hr) r.id (by simp [hid]) rfl
    obtain ⟨same, next⟩ := shown.perform op unseen
    rw [Log.run_append]
    refine ⟨by rw [agree, same], next, fun r hr => ?_⟩
    rw [List.filterMap_append, List.mem_append]
    rcases Log.mem_perform hr with hr | hr
    · obtain ⟨q, hq, e⟩ := List.mem_map.1 hr
      exact .inl (e ▸ known q hq)
    · exact .inr (by simp [hr])
  | relist hp _ ih =>
    obtain ⟨agree, shown, known⟩ := ih fresh
    exact ⟨agree, shown.relist hp, known⟩

/-- Whatever a store has been through and however its records were listed on the way, it answers
and shows the same as the log. A clearing takes out the records of its workflow and no other. -/
theorem reached_agrees_with_log {ops : List Operation} {answers : List Answer} {s : Store}
    (reached : Reached ops answers s) (fresh : (ops.filterMap Operation.newId?).Nodup) :
    let log := (Log.run ops).2
    answers = (Log.run ops).1 ∧
    (∀ id r, s.get? id = some r ↔ r ∈ log.records ∧ r.id = id) ∧
    (∀ output, s.latest? output =
      (log.records.filter fun r => r.outputNodeId == output).getLast?) ∧
    (∀ workflow, s.recordsOf workflow = log.records.filter fun r => r.workflowId == workflow) ∧
    s.size = log.records.length ∧
    ∀ workflow,
      (s.clear workflow).1 = (s.recordsOf workflow).length ∧
      (s.clear workflow).2.size + (s.clear workflow).1 = s.size ∧
      (∀ other, other ≠ workflow →
        (s.clear workflow).2.recordsOf other = s.recordsOf other) ∧
      ∀ id r, (s.clear workflow).2.get? id = some r ↔
        s.get? id = some r ∧ r.workflowId ≠ workflow := by
  obtain ⟨agree, shown, -⟩ := reached.shows fresh
  refine ⟨agree, fun _ _ => shown.get?_eq_some_iff, fun _ => shown.latest?_eq,
    fun _ => shown.recordsOf_eq, shown.size_eq, fun workflow => ?_⟩
  obtain ⟨counted, cleared⟩ := shown.clear workflow
  have left : Shows (s.clear workflow).2 ((Log.run ops).2 ++ [.cleared workflow]) := cleared
  have count : (s.clear workflow).1 = (s.recordsOf workflow).length := by
    rw [shown.recordsOf_eq, ← List.countP_eq_length_filter]
    exact Answer.cleared.inj counted
  refine ⟨count, ?_, fun other ho => ?_, fun id r => ?_⟩
  · rw [count, left.size_eq, shown.size_eq, shown.recordsOf_eq, Log.records_append_cleared,
      ← List.countP_eq_length_filter, ← List.countP_eq_length_filter]
    have := List.length_eq_countP_add_countP (fun r : Record => r.workflowId == workflow)
      (l := (Log.run ops).2.records)
    simp only [ne_eq, decide_not, beq_iff_eq] at this ⊢
    omega
  · rw [left.recordsOf_eq, shown.recordsOf_eq, Log.records_append_cleared, List.filter_filter]
    refine List.filter_congr fun r _ => ?_
    by_cases hr : r.workflowId = other <;> simp [hr, ho]
  · rw [left.get?_eq_some_iff, shown.get?_eq_some_iff, Log.records_append_cleared,
      List.mem_filter, decide_eq_true_iff]
    exact and_right_comm

/-- The index goes back to the older record when the workflow of the newer one is cleared, though
the older one was marked in between and the records are listed the other way round. -/
theorem latest?_after_clear :
    ∃ answers s, Reached
      [.create "a" .epoch "one" "out" .null, .create "b" .epoch "two" "out" .null,
        .mark .running .epoch "a", .clear "two"] answers s ∧
      (s.latest? "out").map Record.id = some "a" := by
  have created := ((Reached.new.perform (.create "a" .epoch "one" "out" .null)).perform
    (.create "b" .epoch "two" "out" .null)).perform (.mark .running .epoch "a")
  have reached := (created.relist (List.reverse_perm _)).perform (.clear "two")
  refine ⟨_, _, reached, ?_⟩
  rw [(reached_agrees_with_log reached (by decide)).2.2.1]
  rfl

end ImageGraph.Store
