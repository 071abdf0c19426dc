import ImageGraph.Proofs.Graph.Merge
import ImageGraph.Request.Compile

/-! When two requests ask for the same work. They may differ in the order of what they list and in
the values that are chosen among several, but not in what they are made of. -/

namespace ImageGraph

open Json

/-- Either both values are there or neither is, and lists have the same items in some order. -/
structure Json.SameShape (v w : Option Json) : Prop where
  isSome : v.isSome = w.isSome
  items : ((v.bind array?).getD []).Perm ((w.bind array?).getD [])

/-- The same keys with values of the same shape. -/
def Json.Object.SameShape (o p : Object) : Prop :=
  ∀ key, Json.SameShape (o.get? key) (p.get? key)

structure MainStep.SameShape (a b : MainStep) : Prop where
  method : a.method = b.method
  params : a.params.SameShape b.params

/-- The same calls: the steps in some order, and the main call with its parameters. -/
structure Request.SameShape (r s : Request) : Prop where
  flow : r.flow = s.flow
  preprocess : r.preprocess.Perm s.preprocess
  main : r.main.SameShape s.main

/-- Both succeed with related results, or both fail for the same reason; only the node that is
blamed for an unsupported subtype may differ. -/
inductive SameOutcome {α : Type} (R : α → α → Prop) :
    Except CompileError α → Except CompileError α → Prop where
  | ok {a b : α} : R a b → SameOutcome R (.ok a) (.ok b)
  | error (e : CompileError) : SameOutcome R (.error e) (.error e)
  | unsupported (n n' : NodeId) (subtype subtype' : String) :
      SameOutcome R (.error (.unsupportedSubtype n subtype))
        (.error (.unsupportedSubtype n' subtype'))

/-- Values that are there together. -/
theorem both_of_isSome_eq {α : Type} {x y : Option α} (h : x.isSome = y.isSome) :
    x = none ∧ y = none ∨ ∃ a b, x = some a ∧ y = some b := by
  cases x <;> cases y <;> simp_all

namespace Json

variable {a b : Json} {v w : Option Json} {o p : Object}

/-! ### Values and objects -/

theorem SameShape.refl (v : Option Json) : SameShape v v :=
  ⟨rfl, .refl _⟩

/-- Values that are no lists need only be there. -/
theorem sameShape_of_plain (ha : a.array? = none) (hb : b.array? = none) :
    SameShape (some a) (some b) := by
  refine ⟨rfl, ?_⟩
  simp [ha, hb]

theorem sameShape_str (s t : String) : SameShape (some (.str s)) (some (.str t)) :=
  sameShape_of_plain rfl rfl

theorem sameShape_map_str {s t : Option String} (h : s.isSome = t.isSome) :
    SameShape (s.map .str) (t.map .str) := by
  obtain ⟨rfl, rfl⟩ | ⟨s, t, rfl, rfl⟩ := both_of_isSome_eq h
  · exact .refl _
  · exact sameShape_str s t

theorem array?_ofFloat (x : Float) : (ofFloat x).array? = none := by
  unfold ofFloat
  split <;> rfl

theorem sameShape_ofFloat (x y : Float) : SameShape (some (ofFloat x)) (some (ofFloat y)) :=
  sameShape_of_plain (array?_ofFloat x) (array?_ofFloat y)

theorem sameShape_nonempty? {items items' : List Json} (h : items.Perm items') :
    SameShape (nonempty? items) (nonempty? items') := by
  cases items with
  | nil =>
    rw [h.nil_eq]
    exact .refl _
  | cons first rest =>
    cases items' with
    | nil => exact absurd h.eq_nil (List.cons_ne_nil _ _)
    | cons first' rest' => exact ⟨rfl, h⟩

namespace Object

theorem SameShape.refl (o : Object) : o.SameShape o :=
  fun key => .refl (o.get? key)

theorem SameShape.insertSome (h : o.SameShape p) (key : String) (value : Json.SameShape v w) :
    (o.insertSome key v).SameShape (p.insertSome key w) := by
  intro other
  rw [get?_insertSome, get?_insertSome]
  split
  · obtain ⟨rfl, rfl⟩ | ⟨a, b, rfl, rfl⟩ := both_of_isSome_eq value.isSome
    · exact h other
    · exact value
  · exact h other

theorem SameShape.insert (h : o.SameShape p) (key : String)
    (value : Json.SameShape (some a) (some b)) : (o.insert key a).SameShape (p.insert key b) :=
  h.insertSome key value

end Object

end Json

/-! ### Outcomes -/

namespace SameOutcome

variable {α β : Type} {R : α → α → Prop} {S : β → β → Prop} {x y z : Except CompileError α}

theorem trans (hR : ∀ {a b c}, R a b → R b c → R a c) (h : SameOutcome R x y)
    (h' : SameOutcome R y z) : SameOutcome R x z := by
  cases h with
  | ok hab =>
    cases h' with
    | ok hbc => exact .ok (hR hab hbc)
  | error e => exact h'
  | unsupported =>
    cases h' with
    | error => exact .unsupported ..
    | unsupported => exact .unsupported ..

theorem bind {f g : α → Except CompileError β} (h : SameOutcome R x y)
    (hf : ∀ {a b}, R a b → SameOutcome S (f a) (g b)) :
    SameOutcome S (x >>= f) (y >>= g) := by
  cases h with
  | ok hab => exact hf hab
  | error e => exact .error e
  | unsupported => exact .unsupported ..

theorem map {f g : α → β} (h : SameOutcome R x y) (hf : ∀ {a b}, R a b → S (f a) (g b)) :
    SameOutcome S (x.map f) (y.map g) := by
  cases h with
  | ok hab => exact .ok (hf hab)
  | error e => exact .error e
  | unsupported => exact .unsupported ..

end SameOutcome

end ImageGraph
