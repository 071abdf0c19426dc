import ImageGraph.Proofs.Graph.Ancestors
import Mathlib.Data.List.Forall2

/-! Lists whose members are related one by one. The search finds related nodes in the same order,
since it goes by ids alone. -/

namespace ImageGraph

section

variable {α β : Type} {R : α → α → Prop} {xs ys : List α} (related : List.Forall₂ R xs ys)
include related

theorem exists_related {a : α} (h : a ∈ xs) : ∃ b ∈ ys, R a b := by
  induction related with
  | nil => cases h
  | @cons first b _ _ hab _ ih =>
    obtain rfl | h := List.mem_cons.1 h
    · exact ⟨b, List.mem_cons_self, hab⟩
    · obtain ⟨b, hb, hab⟩ := ih h
      exact ⟨b, List.mem_cons_of_mem _ hb, hab⟩

theorem map_related {f g : α → β} (h : ∀ a b, R a b → f a = g b) : xs.map f = ys.map g := by
  induction related with
  | nil => rfl
  | cons hab _ ih => rw [List.map_cons, List.map_cons, h _ _ hab, ih]

theorem filterMap_related {f g : α → Option β} (h : ∀ a b, R a b → f a = g b) :
    xs.filterMap f = ys.filterMap g := by
  have same := congrArg (List.filterMap id) (map_related related h)
  rwa [List.filterMap_map, List.filterMap_map] at same

theorem findSome?_related {f g : α → Option β} (h : ∀ a b, R a b → f a = g b) :
    xs.findSome? f = ys.findSome? g := by
  have same := congrArg (List.findSome? id) (map_related related h)
  rwa [List.findSome?_map, List.findSome?_map] at same

theorem filter_related {S : α → α → Prop} {p q : α → Bool} (same : ∀ a b, R a b → p a = q b)
    (picked : ∀ a b, R a b → p a = true → S a b) :
    List.Forall₂ S (xs.filter p) (ys.filter q) := by
  induction related with
  | nil => exact .nil
  | @cons a b _ _ hab _ ih =>
    rw [List.filter_cons, List.filter_cons, ← same a b hab]
    split
    · rename_i hp
      exact .cons (picked a b hab hp) ih
    · exact ih

theorem findSome?_rel {S : β → β → Prop} {f g : α → Option β}
    (h : ∀ a b, R a b → Option.Rel S (f a) (g b)) :
    Option.Rel S (xs.findSome? f) (ys.findSome? g) := by
  induction related with
  | nil => exact .none
  | @cons a b _ _ hab _ ih =>
    rw [List.findSome?_cons, List.findSome?_cons]
    have answers := h a b hab
    generalize f a = x, g b = y at answers ⊢
    cases answers with
    | none => exact ih
    | some same => exact .some same

theorem related_trans (trans : ∀ a b c, R a b → R b c → R a c) {zs : List α}
    (next : List.Forall₂ R ys zs) : List.Forall₂ R xs zs := by
  induction related generalizing zs with
  | nil => exact next
  | cons hab _ ih =>
    cases next with
    | cons hbc rest => exact .cons (trans _ _ _ hab hbc) (ih rest)

end

theorem isSome_of_rel {α β : Type} {R : α → β → Prop} {x : Option α} {y : Option β}
    (h : Option.Rel R x y) : x.isSome = y.isSome := by
  cases h <;> rfl

section

variable {R : Node → Node → Prop} {nodes nodes' : List Node}

theorem nodeNamed?_related (ids : ∀ n m, R n m → n.id = m.id)
    (related : List.Forall₂ R nodes nodes') (id : NodeId) :
    Option.Rel R (nodeNamed? nodes id) (nodeNamed? nodes' id) := by
  rw [nodeNamed?, nodeNamed?, List.find?_eq_findSome?_guard, List.find?_eq_findSome?_guard]
  refine findSome?_rel (List.forall₂_reverse_iff.2 related) fun n m alike => ?_
  rw [Option.guard, Option.guard, ids n m alike]
  split
  · exact .some alike
  · exact .none

theorem search_related {edges : List Edge} {seen stack : List NodeId}
    (named : ∀ id, Option.Rel R (nodeNamed? nodes id) (nodeNamed? nodes' id)) :
    List.Forall₂ R (search nodes edges seen stack) (search nodes' edges seen stack) := by
  -- Both searches take the same turns: whether an id was seen or is named is the same for both.
  fun_induction search nodes edges seen stack with
  | case1 =>
    rw [search]
    exact .nil
  | case2 seen id rest hs ih =>
    rw [search_seen hs]
    exact ih
  | case3 seen id rest hs hn ih =>
    have other := named id
    rw [hn] at other
    generalize hm : nodeNamed? nodes' id = found at other
    cases other
    rw [search_unnamed hs hm]
    exact ih
  | case4 seen id rest hs n hn ih =>
    have other := named id
    rw [hn] at other
    generalize hm : nodeNamed? nodes' id = found at other
    cases other with
    | some alike =>
      rw [search_named hs hm]
      exact .cons alike ih

theorem ancestors_related {edges : List Edge}
    (named : ∀ id, Option.Rel R (nodeNamed? nodes id) (nodeNamed? nodes' id)) (target : NodeId) :
    List.Forall₂ R (ancestors nodes edges target) (ancestors nodes' edges target) :=
  search_related named

end

end ImageGraph
