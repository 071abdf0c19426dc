import ImageGraph.Store.Basic

/-! The index from output nodes to records. However the records are listed when the index is built
anew, each output node leads to the record created last for it. -/

namespace ImageGraph.Store

variable {α β : Type}

private theorem lookup_filter_key {key k : String} (hk : k ≠ key) (index : List (String × α)) :
    (index.filter fun e => e.1 ≠ key).lookup k = index.lookup k := by
  induction index with
  | nil => rfl
  | cons e rest ih =>
    obtain ⟨l, v⟩ := e
    by_cases hl : l = key
    · have hkl : (k == l) = false := beq_eq_false_iff_ne.2 fun h => hk (h.trans hl)
      rw [List.filter_cons_of_neg (by simpa using hl), ih, List.lookup_cons, hkl]
    · rw [List.filter_cons_of_pos (by simpa using hl), List.lookup_cons, List.lookup_cons, ih]

theorem lookup_enter (key k : String) (value : α) (index : List (String × α)) :
    (enter key value index).lookup k = if k = key then some value else index.lookup k := by
  unfold enter
  split
  · rename_i hk
    rw [hk, List.lookup_cons_self]
  · rename_i hk
    rw [List.lookup_cons, beq_eq_false_iff_ne.2 hk]
    exact lookup_filter_key hk index

private theorem lookup_map_value (f : α → β) (index : List (String × α)) (k : String) :
    (index.map fun e => (e.1, f e.2)).lookup k = (index.lookup k).map f := by
  induction index with
  | nil => rfl
  | cons e rest ih =>
    obtain ⟨l, v⟩ := e
    rw [List.map_cons, List.lookup_cons, List.lookup_cons]
    cases k == l
    · exact ih
    · rfl

/-- Of these records, `r` is the one created last for an output node. -/
structure Newest (records : List Record) (output : String) (r : Record) : Prop where
  mem : r ∈ records
  output_eq : r.outputNodeId = output
  seq_le : ∀ q ∈ records, q.outputNodeId = output → q.seq ≤ r.seq

/-- An index under construction that has taken the records into account. -/
structure Indexes (index : List (String × (Nat × RecordId))) (records : List Record) : Prop where
  found : ∀ output e, index.lookup output = some e →
    ∃ r, Newest records output r ∧ e = (r.seq, r.id)
  missing : ∀ output, index.lookup output = none → ∀ r ∈ records, r.outputNodeId ≠ output

private theorem Newest.append_other {records : List Record} {output : String} {p r : Record}
    (h : Newest records output p) (hr : r.outputNodeId = output → r.seq ≤ p.seq) :
    Newest (records ++ [r]) output p where
  mem := List.mem_append_left _ h.mem
  output_eq := h.output_eq
  seq_le q hq hqo := by
    rcases List.mem_append.1 hq with hq | hq
    · exact h.seq_le q hq hqo
    · rw [List.mem_singleton.1 hq] at hqo ⊢
      exact hr hqo

private theorem newest_append_self {records : List Record} {r : Record}
    (h : ∀ q ∈ records, q.outputNodeId = r.outputNodeId → q.seq ≤ r.seq) :
    Newest (records ++ [r]) r.outputNodeId r where
  mem := by simp
  output_eq := rfl
  seq_le q hq hqo := by
    rcases List.mem_append.1 hq with hq | hq
    · exact h q hq hqo
    · exact Nat.le_of_eq (congrArg Record.seq (List.mem_singleton.1 hq))

private theorem lookup_latestStep_other {index : List (String × (Nat × RecordId))} {r : Record}
    {output : String} (h : output ≠ r.outputNodeId) :
    (latestStep index r).lookup output = index.lookup output := by
  unfold latestStep
  split
  · split
    · rw [lookup_enter, if_neg h]
    · rfl
  · rw [lookup_enter, if_neg h]

/-- What a step makes of the output node of its record. -/
private theorem lookup_latestStep_self {index : List (String × (Nat × RecordId))}
    {records : List Record} (h : Indexes index records) (r : Record) :
    ∃ p, Newest (records ++ [r]) r.outputNodeId p ∧
      (latestStep index r).lookup r.outputNodeId = some (p.seq, p.id) := by
  unfold latestStep
  split
  · rename_i seq id hl
    obtain ⟨p, hp, he⟩ := h.found _ _ hl
    obtain ⟨rfl, rfl⟩ := Prod.mk.inj he
    split
    · rename_i hlt
      refine ⟨r, newest_append_self fun q hq hqo => ?_, ?_⟩
      · exact Nat.le_of_lt (Nat.lt_of_le_of_lt (hp.seq_le q hq hqo) hlt)
      · rw [lookup_enter, if_pos rfl]
    · rename_i hlt
      exact ⟨p, hp.append_other fun _ => Nat.le_of_not_lt hlt, hl⟩
  · rename_i hl
    refine ⟨r, newest_append_self fun q hq hqo => ?_, ?_⟩
    · exact absurd hqo (h.missing _ hl q hq)
    · rw [lookup_enter, if_pos rfl]

private theorem Indexes.step {index : List (String × (Nat × RecordId))} {records : List Record}
    (h : Indexes index records) (r : Record) : Indexes (latestStep index r) (records ++ [r]) where
  found output e he := by
    by_cases ho : output = r.outputNodeId
    · subst ho
      obtain ⟨p, hp, hl⟩ := lookup_latestStep_self h r
      rw [hl] at he
      exact ⟨p, hp, (Option.some.inj he).symm⟩
    · rw [lookup_latestStep_other ho] at he
      obtain ⟨p, hp, rfl⟩ := h.found _ _ he
      exact ⟨p, hp.append_other fun hro => absurd hro.symm ho, rfl⟩
  missing output hn q hq := by
    by_cases ho : output = r.outputNodeId
    · subst ho
      obtain ⟨p, -, hl⟩ := lookup_latestStep_self h r
      rw [hl] at hn
      cases hn
    · rw [lookup_latestStep_other ho] at hn
      rcases List.mem_append.1 hq with hq | hq
      · exact h.missing _ hn q hq
      · rw [List.mem_singleton.1 hq]
        exact Ne.symm ho

private theorem Indexes.steps {index : List (String × (Nat × RecordId))} {taken : List Record}
    (rest : List Record) (h : Indexes index taken) :
    Indexes (rest.foldl latestStep index) (taken ++ rest) := by
  induction rest generalizing index taken with
  | nil => simpa using h
  | cons r rest ih => simpa using ih (h.step r)

theorem indexes_foldl (records : List Record) :
    Indexes (records.foldl latestStep []) records := by
  have start : Indexes [] [] :=
    ⟨fun _ _ h => absurd h.symm (Option.some_ne_none _), fun _ _ _ h => absurd h List.not_mem_nil⟩
  simpa using start.steps records

private theorem lookup_indexOf (records : List Record) (output : String) :
    (indexOf records).lookup output =
      ((records.foldl latestStep []).lookup output).map Prod.snd :=
  lookup_map_value Prod.snd _ output

theorem lookup_indexOf_eq_none {records : List Record} {output : String}
    (h : ∀ r ∈ records, r.outputNodeId ≠ output) : (indexOf records).lookup output = none := by
  rw [lookup_indexOf]
  cases hl : (records.foldl latestStep []).lookup output with
  | none => rfl
  | some e =>
    obtain ⟨r, hr, -⟩ := (indexes_foldl records).found _ _ hl
    exact absurd hr.output_eq (h r hr.mem)

/-- In whatever order distinct records are listed, the index leads to the newest. -/
theorem lookup_indexOf_of_newest {records : List Record} {output : String} {r : Record}
    (h : Newest records output r)
    (distinct : ∀ p ∈ records, ∀ q ∈ records, p.seq = q.seq → p = q) :
    (indexOf records).lookup output = some r.id := by
  rw [lookup_indexOf]
  cases hl : (records.foldl latestStep []).lookup output with
  | none => exact absurd h.output_eq ((indexes_foldl records).missing _ hl r h.mem)
  | some e =>
    obtain ⟨p, hp, rfl⟩ := (indexes_foldl records).found _ _ hl
    have le : p.seq ≤ r.seq := h.seq_le p hp.mem hp.output_eq
    have ge : r.seq ≤ p.seq := hp.seq_le r h.mem h.output_eq
    rw [distinct p hp.mem r h.mem (Nat.le_antisymm le ge)]
    rfl

end ImageGraph.Store
