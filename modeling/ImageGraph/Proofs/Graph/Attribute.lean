import ImageGraph.Graph.Node

/-! What is read of a value under several keys, and of a node under one. -/

namespace ImageGraph

/-! ### Values -/

/-- The first of the keys under which there is a value that can be read, with what is read. -/
def Json.FirstAt {α : Type} (read : Json → Option α) (keys : List String) (j : Json) (a : α) :
    Prop :=
  ∃ before key after, keys = before ++ key :: after ∧ (j.field? key).bind read = some a ∧
    ∀ k ∈ before, (j.field? k).bind read = none

theorem Json.firstOf?_eq_some {α : Type} {read : Json → Option α} {keys : List String} {j : Json}
    {a : α} : j.firstOf? read keys = some a ↔ FirstAt read keys j a := by
  rw [firstOf?, List.findSome?_eq_some_iff]
  rfl

/-- Of several texts the first counts, and is no text if it is empty. -/
theorem Json.textAt?_eq_some {keys : List String} {j : Json} {s : String} :
    j.textAt? keys = some s ↔ FirstAt string? keys j s ∧ s ≠ "" := by
  rw [textAt?, Option.filter_eq_some_iff, firstOf?_eq_some, decide_eq_true_eq]

theorem Json.bind_string?_eq_some {v : Option Json} {s : String} :
    v.bind Json.string? = some s ↔ v = some (.str s) := by
  constructor
  · intro h
    obtain ⟨j, rfl, text⟩ := Option.bind_eq_some_iff.1 h
    cases j <;> cases text
    rfl
  · rintro rfl
    rfl

theorem Json.textAt?_eq_none {keys : List String} {j : Json} :
    j.textAt? keys = none ↔
      (∀ key ∈ keys, ∀ s, j.field? key ≠ some (.str s)) ∨ FirstAt string? keys j "" := by
  rw [← firstOf?_eq_some, textAt?]
  have unread : j.firstOf? string? keys = none ↔
      ∀ key ∈ keys, ∀ s, j.field? key ≠ some (.str s) := by
    rw [firstOf?, List.findSome?_eq_none_iff]
    refine forall₂_congr fun key _ => ?_
    rw [Option.eq_none_iff_forall_ne_some]
    exact forall_congr' fun s => not_congr bind_string?_eq_some
  rw [← unread]
  cases j.firstOf? string? keys <;> simp

/-! ### Nodes -/

theorem Node.text?_eq_some {n : Node} {key s : String} :
    n.text? key = some s ↔ n.attribute? key = some (.str s) ∧ Text.allBlank s = false := by
  rw [text?, Option.filter_eq_some_iff, Json.bind_string?_eq_some]
  simp

theorem Node.text?_of_attribute? {n : Node} {key s : String}
    (h : n.attribute? key = some (.str s)) :
    n.text? key = if Text.allBlank s then none else some s := by
  simp only [text?, h, Option.bind_some, Json.string?]
  cases blank : Text.allBlank s <;> simp [blank, Option.filter]

theorem filled_of_text? {n : Node} {key t : String} (h : n.text? key = some t) :
    Text.allBlank t = false :=
  (Node.text?_eq_some.1 h).2

end ImageGraph
