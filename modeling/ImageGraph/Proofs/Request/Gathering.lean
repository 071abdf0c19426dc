import ImageGraph.Proofs.Request.Refusal

/-! What is read from the members of a list, one after the other. Each member gives one thing or
nothing, and what they give keeps their order. -/

namespace ImageGraph

/-- What the members of a list give, in their order and one each, those apart that give nothing. -/
inductive Gathers {α β : Type} (R : α → β → Prop) : List α → List β → Prop where
  | nil : Gathers R [] []
  | give {a : α} {b : β} {as : List α} {bs : List β} :
      R a b → Gathers R as bs → Gathers R (a :: as) (b :: bs)
  | pass {a : α} {as : List α} {bs : List β} :
      (∀ b, ¬ R a b) → Gathers R as bs → Gathers R (a :: as) bs

/-- What is given is what a reader finds that answers for the members of the list. -/
theorem gathers_iff {α β : Type} {R : α → β → Prop} {f : α → Option β} {as : List α} {bs : List β}
    (hf : ∀ a ∈ as, ∀ b, R a b ↔ f a = some b) : Gathers R as bs ↔ bs = as.filterMap f := by
  induction as generalizing bs with
  | nil =>
    constructor
    · rintro ⟨⟩
      rfl
    · rintro rfl
      exact .nil
  | cons a as ih =>
    obtain ⟨head, tail⟩ := List.forall_mem_cons.1 hf
    constructor
    · intro h
      cases h with
      | give given rest => rw [List.filterMap_cons_some ((head _).1 given), (ih tail).1 rest]
      | pass nothing rest =>
        have none : f a = none :=
          Option.eq_none_iff_forall_ne_some.2 fun b found => nothing b ((head b).2 found)
        rw [List.filterMap_cons_none none, (ih tail).1 rest]
    · rintro rfl
      cases found : f a with
      | none =>
        rw [List.filterMap_cons_none found]
        refine .pass (fun b given => ?_) ((ih tail).2 rfl)
        rw [(head b).1 given] at found
        cases found
      | some b =>
        rw [List.filterMap_cons_some found]
        exact .give ((head b).2 found) ((ih tail).2 rfl)

theorem Gathers.unique {α β : Type} {R : α → β → Prop} {as : List α} {bs cs : List β}
    (h : Gathers R as bs) (h' : Gathers R as cs) (one : ∀ {a b c}, R a b → R a c → b = c) :
    bs = cs := by
  induction h generalizing cs with
  | nil =>
    cases h'
    rfl
  | give given _ ih =>
    cases h' with
    | give given' rest => rw [one given given', ih rest]
    | pass nothing => exact absurd given (nothing _)
  | pass nothing _ ih =>
    cases h' with
    | give given => exact absurd given (nothing _)
    | pass _ rest => exact ih rest

/-- Each thing that is given is given by a member of the list. -/
theorem Gathers.exists_of_mem {α β : Type} {R : α → β → Prop} {as : List α} {bs : List β}
    (h : Gathers R as bs) {b : β} (hb : b ∈ bs) : ∃ a ∈ as, R a b := by
  induction h with
  | nil => cases hb
  | give given _ ih =>
    obtain rfl | hb := List.mem_cons.1 hb
    · exact ⟨_, List.mem_cons_self, given⟩
    · obtain ⟨a, ha, given⟩ := ih hb
      exact ⟨a, List.mem_cons_of_mem _ ha, given⟩
  | pass _ _ ih =>
    obtain ⟨a, ha, given⟩ := ih hb
    exact ⟨a, List.mem_cons_of_mem _ ha, given⟩

/-- Something is given just if a member of the list has something to give. -/
theorem Gathers.ne_nil_iff {α β : Type} {R : α → β → Prop} {as : List α} {bs : List β}
    (h : Gathers R as bs) : bs ≠ [] ↔ ∃ a ∈ as, ∃ b, R a b := by
  induction h with
  | nil => simp
  | give given => simpa using .inl ⟨_, given⟩
  | pass nothing _ ih => simp [ih, nothing]

/-- The first of a list goes by the properties of its members. -/
theorem FirstWith.congr {P Q : Node → Prop} {found : List Node} {n : Node}
    (h : ∀ m ∈ found, P m ↔ Q m) : FirstWith P found n ↔ FirstWith Q found n := by
  induction found with
  | nil => exact ⟨fun first => (nomatch first), fun first => (nomatch first)⟩
  | cons m rest ih =>
    obtain ⟨head, tail⟩ := List.forall_mem_cons.1 h
    rw [cons_iff, cons_iff, head, ih tail]

theorem FirstWith.mem {P : Node → Prop} {found : List Node} {n : Node}
    (h : FirstWith P found n) : n ∈ found ∧ P n := by
  induction h with
  | here hp => exact ⟨List.mem_cons_self, hp⟩
  | later _ _ ih => exact ⟨List.mem_cons_of_mem _ ih.1, ih.2⟩

end ImageGraph
