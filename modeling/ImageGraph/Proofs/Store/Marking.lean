import ImageGraph.Proofs.Store.Log

/-! Creations and marks as they show in look-ups: each touches the record of its id only. -/

namespace ImageGraph.Store

variable {s : Store} {m : Mark} {now : Timestamp} {id : RecordId} {r : Record}

private theorem mark_eq_replace (hr : s.get? id = some r) (hm : r.status.mayBecome m.status) :
    s.mark m now id =
      .ok (m.apply now r, { s with records := replace (m.apply now r) s.records }) := by
  rw [mark_eq_transition, transition, hr]
  simp only [hm, if_true]
  rfl

theorem mark_error (h : ∀ r, s.get? id = some r → r.status.mayBecome m.status = false) :
    ∃ e, s.mark m now id = .error e := by
  rw [mark_eq_transition, transition]
  cases hr : s.get? id with
  | none => exact ⟨_, rfl⟩
  | some r =>
    simp only [h r hr, Bool.false_eq_true, if_false]
    exact ⟨_, rfl⟩

/-- Marks a record if it may be marked. -/
def tryMark (s : Store) (m : Mark) (now : Timestamp) (id : RecordId) : Store :=
  match s.mark m now id with
  | .ok (_, s) => s
  | .error _ => s

theorem mark_ok (hr : s.get? id = some r) (hm : r.status.mayBecome m.status) :
    s.mark m now id = .ok (m.apply now r, s.tryMark m now id) := by
  rw [tryMark, mark_eq_replace hr hm]

theorem get?_id (h : s.get? id = some r) : r.id = id :=
  eq_of_beq (List.find?_some (p := fun q : Record => q.id == id) h)

private theorem get?_replace (changed : Record) (other : RecordId) :
    ({ s with records := replace changed s.records } : Store).get? other =
      (s.get? other).map fun q => if q.id = changed.id then changed else q := by
  have same_id : ∀ q : Record, (if q.id = changed.id then changed else q).id = q.id := fun q => by
    split
    · rename_i h
      exact h.symm
    · rfl
  simp only [get?, replace, List.find?_map]
  congr 2
  funext q
  simp only [Function.comp_apply, same_id]

theorem get?_tryMark (s : Store) (m : Mark) (now : Timestamp) (id other : RecordId) :
    (s.tryMark m now id).get? other = (s.get? other).map fun q =>
      if other = id ∧ q.status.mayBecome m.status then m.apply now q else q := by
  unfold tryMark
  by_cases hm : ∃ r, s.get? id = some r ∧ r.status.mayBecome m.status
  · obtain ⟨r, hr, hm⟩ := hm
    rw [mark_eq_replace hr hm]
    dsimp only
    rw [get?_replace, Mark.apply_id, get?_id hr]
    cases hq : s.get? other with
    | none => rfl
    | some q =>
      have hid := get?_id hq
      by_cases ho : other = id
      · subst ho
        obtain rfl : r = q := Option.some.inj (hr.symm.trans hq)
        simp [hid, hm]
      · simp [hid, ho]
  · have refused : ∀ r, s.get? id = some r → r.status.mayBecome m.status = false := fun r hr => by
      cases h : r.status.mayBecome m.status
      · rfl
      · exact absurd ⟨r, hr, h⟩ hm
    obtain ⟨e, he⟩ : ∃ e, s.mark m now id = .error e := mark_error refused
    rw [he]
    cases hq : s.get? other with
    | none => rfl
    | some q =>
      by_cases ho : other = id
      · subst ho
        simp [refused q hq]
      · simp [ho]

/-- What a mark that was accepted did. -/
theorem mark_eq_ok {s' : Store} (h : s.mark m now id = .ok (r, s')) :
    ∃ q, s.get? id = some q ∧ q.status.mayBecome m.status ∧ r = m.apply now q ∧
      s' = s.tryMark m now id := by
  have tried : s' = s.tryMark m now id := by rw [tryMark, h]
  rw [mark_eq_transition, transition] at h
  split at h
  · cases h
  · rename_i q hq
    split at h
    · rename_i hm
      cases h
      exact ⟨q, hq, hm, rfl, tried⟩
    · cases h

theorem perform_mark (s : Store) (m : Mark) (now : Timestamp) (id : RecordId) :
    (s.perform (.mark m now id)).2 = s.tryMark m now id := by
  rw [perform, tryMark]
  cases s.mark m now id <;> rfl

/-- A mark changes nothing, or the records of one id. -/
theorem tryMark_cases (s : Store) (m : Mark) (now : Timestamp) (id : RecordId) :
    s.tryMark m now id = s ∨
      ∃ r, s.get? id = some r ∧ r.status.mayBecome m.status ∧
        s.tryMark m now id = { s with records := replace (m.apply now r) s.records } := by
  cases hm : s.mark m now id with
  | error e => exact .inl (by rw [tryMark, hm])
  | ok p =>
    obtain ⟨r, hr, hb, -, -⟩ := mark_eq_ok hm
    exact .inr ⟨r, hr, hb, by rw [tryMark, mark_eq_replace hr hb]⟩

@[simp] theorem nextSeq_tryMark (s : Store) (m : Mark) (now : Timestamp) (id : RecordId) :
    (s.tryMark m now id).nextSeq = s.nextSeq := by
  obtain same | ⟨r, -, -, replaced⟩ := s.tryMark_cases m now id
  · rw [same]
  · rw [replaced]

theorem get?_create (s : Store) (id : RecordId) (now : Timestamp) (workflow output : String)
    (request : Json) :
    (s.create id now workflow output request).2.get? id =
      some (s.create id now workflow output request).1 := by
  simp [create, get?]

theorem get?_create_of_ne {other : RecordId} (h : other ≠ id) (workflow output : String)
    (request : Json) : (s.create id now workflow output request).2.get? other = s.get? other := by
  rw [create, get?, List.find?_cons_of_neg (by simpa using h.symm), List.find?_filter]
  congr 1
  funext r
  by_cases hr : r.id = other <;> simp [hr, h]

end ImageGraph.Store
