import ImageGraph.Proofs.Store.Marking
import Mathlib.Data.List.Nodup

/-! What becomes of records. Each operation leaves a record as it is, moves it to another status, or
creates it; so a record always holds what belongs to its status, keeps what it was created with, and
does not change any more once it has ended. -/

namespace ImageGraph

def Status.isFinal : Status → Bool
  | succeeded | failed | canceled => true
  | idle | running => false

/-- Only an attempt that has not ended may become anything. -/
theorem Status.open_of_mayBecome {s next : Status} (h : s.mayBecome next = true) :
    s = .idle ∨ s = .running := by
  cases s <;> cases next <;> simp_all [mayBecome]

namespace Record

/-- A record holds what belongs to its status and nothing else. -/
def Coherent (r : Record) : Prop :=
  match r.status with
  | .idle => r.startedAt = none ∧ r.endedAt = none ∧ r.response = none ∧ r.error = none
  | .running => r.startedAt.isSome ∧ r.endedAt = none ∧ r.response = none ∧ r.error = none
  | .succeeded => r.startedAt.isSome ∧ r.endedAt.isSome ∧ r.response.isSome ∧ r.error = none
  | .failed => r.endedAt.isSome ∧ r.error.isSome ∧ r.response = none
  | .canceled => r.endedAt.isSome ∧ r.response = none ∧ r.error = none

/-- What a record keeps from its creation on, and that it keeps everything once it has ended. -/
structure Becomes (r later : Record) : Prop where
  id : later.id = r.id
  workflowId : later.workflowId = r.workflowId
  outputNodeId : later.outputNodeId = r.outputNodeId
  request : later.request = r.request
  createdAt : later.createdAt = r.createdAt
  seq : later.seq = r.seq
  settled : r.status.isFinal → later = r

theorem Becomes.refl (r : Record) : r.Becomes r :=
  ⟨rfl, rfl, rfl, rfl, rfl, rfl, fun _ => rfl⟩

theorem Becomes.trans {r s t : Record} (h : r.Becomes s) (h' : s.Becomes t) : r.Becomes t where
  id := h'.id.trans h.id
  workflowId := h'.workflowId.trans h.workflowId
  outputNodeId := h'.outputNodeId.trans h.outputNodeId
  request := h'.request.trans h.request
  createdAt := h'.createdAt.trans h.createdAt
  seq := h'.seq.trans h.seq
  settled hr := by
    have same := h.settled hr
    exact (h'.settled (same ▸ hr)).trans same

end Record

namespace Mark

variable {m : Mark} {r : Record}

theorem becomes_apply (now : Timestamp) (h : r.status.mayBecome m.status) :
    r.Becomes (m.apply now r) := by
  have going : ¬ r.status.isFinal := by
    obtain hs | hs := Status.open_of_mayBecome h <;> simp [hs, Status.isFinal]
  cases m <;> exact ⟨rfl, rfl, rfl, rfl, rfl, rfl, fun hf => absurd hf going⟩

theorem coherent_apply (now : Timestamp) (h : r.status.mayBecome m.status) (hr : r.Coherent) :
    (m.apply now r).Coherent := by
  obtain hs | hs := Status.open_of_mayBecome h <;> rw [Record.Coherent, hs] at hr <;> rw [hs] at h
  · obtain ⟨-, ended, response, error⟩ := hr
    cases m with
    | running => exact ⟨rfl, ended, response, error⟩
    | succeeded => exact absurd h Bool.false_ne_true
    | failed => exact ⟨rfl, rfl, response⟩
    | canceled => exact ⟨rfl, response, error⟩
  · obtain ⟨started, -, response, error⟩ := hr
    cases m with
    | running => exact absurd h Bool.false_ne_true
    | succeeded => exact ⟨started, rfl, rfl, error⟩
    | failed => exact ⟨rfl, rfl, response⟩
    | canceled => exact ⟨rfl, response, error⟩

end Mark

namespace Store

variable {s s' : Store} {op : Operation} {ops : List Operation} {r : Record}

/-- Where a record of a store comes from when an operation was the last thing to happen. -/
inductive Origin (s : Store) : Operation → Record → Prop where
  | kept {op : Operation} {r : Record} : r ∈ s.records → Origin s op r
  | marked {m : Mark} {now : Timestamp} {r : Record} :
      r ∈ s.records → r.status.mayBecome m.status → Origin s (.mark m now r.id) (m.apply now r)
  | created {id : RecordId} {now : Timestamp} {workflow output : String} {request : Json} :
      Origin s (.create id now workflow output request)
        (s.create id now workflow output request).1

theorem origin_of_mem (h : r ∈ (s.perform op).2.records) : Origin s op r := by
  cases op with
  | create id now workflow output request =>
    obtain rfl | h := List.mem_cons.1 h
    · exact .created
    · exact .kept (List.mem_filter.1 h).1
  | mark m now id =>
    rw [perform_mark] at h
    obtain same | ⟨q, hq, hb, replaced⟩ := s.tryMark_cases m now id
    · exact .kept (same ▸ h)
    · rw [replaced] at h
      obtain ⟨p, hp, rfl⟩ := List.mem_map.1 h
      split
      · rw [← get?_id hq]
        exact .marked (List.mem_of_find?_eq_some hq) hb
      · exact .kept hp
  | clear workflow => exact .kept (List.mem_filter.1 h).1

namespace Origin

theorem coherent (h : Origin s op r) (hs : ∀ q ∈ s.records, q.Coherent) : r.Coherent := by
  cases h with
  | kept hr => exact hs r hr
  | marked hr hb => exact Mark.coherent_apply _ hb (hs _ hr)
  | created => exact ⟨rfl, rfl, rfl, rfl⟩

theorem becomes (h : Origin s op r) :
    (∃ q ∈ s.records, q.Becomes r) ∨ op.newId? = some r.id ∧ r.seq = s.nextSeq := by
  cases h with
  | kept hr => exact .inl ⟨r, hr, .refl r⟩
  | marked hr hb => exact .inl ⟨_, hr, Mark.becomes_apply _ hb⟩
  | created => exact .inr ⟨rfl, rfl⟩

end Origin

theorem nextSeq_le_perform (s : Store) (op : Operation) : s.nextSeq ≤ (s.perform op).2.nextSeq := by
  cases op with
  | create => exact Nat.le_succ _
  | mark m now id => exact Nat.le_of_eq (by rw [perform_mark, nextSeq_tryMark])
  | clear => exact Nat.le_refl _

private theorem ids_replace (changed : Record) (records : List Record) :
    (replace changed records).map Record.id = records.map Record.id := by
  rw [replace, List.map_map]
  refine List.map_congr_left fun q _ => ?_
  rw [Function.comp_apply]
  split
  · rename_i h
    exact h.symm
  · rfl

theorem ids_nodup_perform (h : (s.records.map Record.id).Nodup) (op : Operation) :
    ((s.perform op).2.records.map Record.id).Nodup := by
  cases op with
  | create id now workflow output request =>
    refine List.nodup_cons.2 ⟨fun hm => ?_, h.sublist (List.filter_sublist.map _)⟩
    obtain ⟨q, hq, same⟩ := List.mem_map.1 hm
    exact of_decide_eq_true (List.mem_filter.1 hq).2 same
  | mark m now id =>
    rw [perform_mark]
    obtain same | ⟨q, -, -, replaced⟩ := s.tryMark_cases m now id
    · rwa [same]
    · rwa [replaced, ids_replace]
  | clear workflow => exact h.sublist (List.filter_sublist.map _)

/-- An operation that is refused has no effect. -/
theorem perform_refused {e : StoreError} (h : (s.perform op).1 = .marked (.error e)) :
    (s.perform op).2 = s := by
  cases op with
  | create => cases h
  | mark m now id =>
    unfold perform at h ⊢
    dsimp only at h ⊢
    split at h
    · cases h
    · rfl
  | clear => cases h

/-- Operations turn one store into another. At any time the records may be listed in another
order. -/
inductive Leads (s : Store) : List Operation → Store → Prop where
  | refl : Leads s [] s
  | perform {ops : List Operation} {s' : Store} (op : Operation) :
      Leads s ops s' → Leads s (ops ++ [op]) (s'.perform op).2
  | relist {ops : List Operation} {s' : Store} {records : List Record} :
      records.Perm s'.records → Leads s ops s' → Leads s ops { s' with records }

theorem Reached.leads {answers : List Answer} (h : Reached ops answers s) : Leads {} ops s := by
  induction h with
  | new => exact .refl
  | perform op _ ih => exact .perform op ih
  | relist hp _ ih => exact .relist hp ih

namespace Leads

theorem coherent (h : Leads s ops s') (hs : ∀ r ∈ s.records, r.Coherent) :
    ∀ r ∈ s'.records, r.Coherent := by
  induction h with
  | refl => exact hs
  | perform op _ ih => exact fun r hr => (origin_of_mem hr).coherent ih
  | relist hp _ ih => exact fun r hr => ih r (hp.mem_iff.1 hr)

theorem ids_nodup (h : Leads s ops s') (hs : (s.records.map Record.id).Nodup) :
    (s'.records.map Record.id).Nodup := by
  induction h with
  | refl => exact hs
  | perform op _ ih => exact ids_nodup_perform ih op
  | relist hp _ ih => exact (hp.map Record.id).nodup_iff.2 ih

theorem nextSeq_le (h : Leads s ops s') : s.nextSeq ≤ s'.nextSeq := by
  induction h with
  | refl => exact Nat.le_refl _
  | perform op _ ih => exact Nat.le_trans ih (nextSeq_le_perform _ op)
  | relist _ _ ih => exact ih

/-- Every later record is what has become of an earlier one, or was created since. -/
theorem becomes (h : Leads s ops s') :
    ∀ r ∈ s'.records, (∃ q ∈ s.records, q.Becomes r) ∨
      r.id ∈ ops.filterMap Operation.newId? ∧ s.nextSeq ≤ r.seq := by
  induction h with
  | refl => exact fun r hr => .inl ⟨r, hr, .refl r⟩
  | @perform ops s' op before ih =>
    intro r hr
    rw [List.filterMap_append, List.mem_append]
    obtain ⟨q, hq, last⟩ | ⟨drawn, seq⟩ := (origin_of_mem hr).becomes
    · obtain ⟨p, hp, earlier⟩ | ⟨drawn, seq⟩ := ih q hq
      · exact .inl ⟨p, hp, earlier.trans last⟩
      · rw [last.id, last.seq]
        exact .inr ⟨.inl drawn, seq⟩
    · rw [seq]
      exact .inr ⟨.inr (by simp [drawn]), before.nextSeq_le⟩
  | relist hp _ ih => exact fun r hr => ih r (hp.mem_iff.1 hr)

end Leads

/-- Whatever a store has been through: its records are coherent; a record that is found again later
under its id is what has become of it, unless a creation has drawn that id once more and put a new
record in its place; and an operation that is refused leaves the store as it was. -/
theorem reached_records_last {answers : List Answer} (reached : Reached ops answers s) :
    (∀ r ∈ s.records, r.Coherent) ∧
    (∀ more later, Leads s more later → ∀ id r r', s.get? id = some r → later.get? id = some r' →
      r.Becomes r' ∨ id ∈ more.filterMap Operation.newId? ∧ s.nextSeq ≤ r'.seq) ∧
    ∀ op e, (s.perform op).1 = .marked (.error e) → (s.perform op).2 = s := by
  refine ⟨reached.leads.coherent (by simp), fun more later leads id r r' hr hr' => ?_,
    fun op e => perform_refused⟩
  have distinct : (s.records.map Record.id).Nodup := reached.leads.ids_nodup List.nodup_nil
  obtain ⟨q, hq, becomes⟩ | drawn := leads.becomes r' (List.mem_of_find?_eq_some hr')
  · -- It goes back to some record of that id, and there was only one.
    have same : q.id = r.id := by rw [← becomes.id, get?_id hr', get?_id hr]
    rw [List.inj_on_of_nodup_map distinct hq (List.mem_of_find?_eq_some hr) same] at becomes
    exact .inl becomes
  · exact .inr (get?_id hr' ▸ drawn)

/-- An attempt that failed before it ran stays as it is, whatever is done to it. -/
theorem failed_record_lasts :
    ∃ answers s r,
      Reached [.create "a" .epoch "flow" "out" .null, .mark (.failed "boom") .epoch "a"]
        answers s ∧
      s.get? "a" = some r ∧ r.status = .failed ∧ r.startedAt = none ∧ r.Coherent ∧
      ∀ m later, Leads s [.mark m .epoch "a"] later → ∀ r', later.get? "a" = some r' → r' = r := by
  have reached := (Reached.new.perform (.create "a" .epoch "flow" "out" .null)).perform
    (.mark (.failed "boom") .epoch "a")
  obtain ⟨coherent, becomes, -⟩ := reached_records_last reached
  refine ⟨_, _, _, reached, rfl, rfl, rfl, coherent _ List.mem_cons_self, ?_⟩
  intro m later leads r' hr'
  obtain last | ⟨drawn, -⟩ := becomes _ later leads "a" _ r' rfl hr'
  · exact last.settled rfl
  · cases drawn

end Store

end ImageGraph
