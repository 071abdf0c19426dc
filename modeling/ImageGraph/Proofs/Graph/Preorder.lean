import ImageGraph.Proofs.Graph.Related

/-! The order of the search. The stack works off a recursion: an id that is met for the first time
goes in front of everything that its sources lead to, and these come in the order of the edges. -/

namespace ImageGraph

variable {nodes : List Node} {edges : List Edge} {seen ids last : List NodeId} {id : NodeId}

namespace Preorder

/-- What is visited is not skipped. -/
theorem not_passed (fresh : id ∉ seen) (named : Named nodes id) :
    ¬ (id ∈ seen ∨ ∀ n ∈ nodes, n.id ≠ id) := by
  obtain ⟨n, hn, own⟩ := named
  exact not_or.2 ⟨fresh, fun unnamed => unnamed n hn own⟩

/-- Nothing that was seen is forgotten. -/
theorem subset (h : Preorder nodes edges seen ids last) : seen ⊆ last := by
  induction h with
  | done => exact fun _ hs => hs
  | skip _ _ ih => exact ih
  | visit _ _ _ _ within after => exact fun _ hs => after (within (List.mem_append_left _ hs))

/-- The recursion has one outcome. -/
theorem unique {other : List NodeId} (h : Preorder nodes edges seen ids last)
    (h' : Preorder nodes edges seen ids other) : last = other := by
  -- Whether an id is visited goes by what was seen and by the nodes, the same for both.
  induction h generalizing other with
  | done =>
    cases h'
    rfl
  | skip passed _ ih =>
    cases h' with
    | skip _ later => exact ih later
    | visit fresh named => exact absurd passed (not_passed fresh named)
  | visit fresh named _ _ within after =>
    cases h' with
    | skip passed => exact absurd passed (not_passed fresh named)
    | visit _ _ inside later =>
      obtain rfl := within inside
      exact after later

/-- A list of ids is worked off part by part. -/
theorem of_append {first rest : List NodeId} (h : Preorder nodes edges seen (first ++ rest) last) :
    ∃ within, Preorder nodes edges seen first within ∧ Preorder nodes edges within rest last := by
  induction first generalizing seen with
  | nil => exact ⟨seen, .done, h⟩
  | cons id first ih =>
    cases h with
    | skip passed later =>
      obtain ⟨within, done, rest⟩ := ih later
      exact ⟨within, .skip passed done, rest⟩
    | visit fresh named inside later =>
      obtain ⟨within, done, rest⟩ := ih later
      exact ⟨within, .visit fresh named inside done, rest⟩

/-- Ids that would be skipped at once may as well be left out. -/
theorem of_filter {p : NodeId → Bool}
    (passed : ∀ id, p id = false → id ∈ seen ∨ ∀ n ∈ nodes, n.id ≠ id)
    (h : Preorder nodes edges seen (ids.filter p) last) : Preorder nodes edges seen ids last := by
  induction ids generalizing seen with
  | nil => exact h
  | cons id rest ih =>
    cases hp : p id with
    | false =>
      rw [List.filter_cons_of_neg (by simp [hp])] at h
      exact .skip (passed id hp) (ih passed h)
    | true =>
      rw [List.filter_cons_of_pos hp] at h
      cases h with
      | skip out later => exact .skip out (ih passed later)
      | visit fresh named inside later =>
        -- What has been seen only grows, so the ids left out are still skipped later on.
        refine .visit fresh named inside (ih (fun other ho => ?_) later)
        exact (passed other ho).imp_left fun hs => inside.subset (List.mem_append_left _ hs)

end Preorder

/-- With any ids on the stack the search finds what the recursion discovers, in that order. What the
two have seen may differ in ids of no node. -/
theorem search_preorder {visited stack : List NodeId}
    (same : ∀ id, Named nodes id → (id ∈ visited ↔ id ∈ seen)) :
    Preorder nodes edges visited stack
      (visited ++ (search nodes edges seen stack).map Node.id) := by
  fun_induction search nodes edges seen stack generalizing visited with
  | case1 =>
    rw [List.map_nil, List.append_nil]
    exact .done
  | case2 seen id rest hs ih =>
    refine .skip ?_ (ih same)
    by_cases named : Named nodes id
    · exact .inl ((same id named).2 hs)
    · exact .inr fun n hn own => named ⟨n, hn, own⟩
  | case3 seen id rest hs hn ih =>
    refine .skip (.inr (nodeNamed?_eq_none_iff.1 hn)) (ih fun other named => ?_)
    have apart : other ≠ id := fun own => not_named_of_nodeNamed? hn (own ▸ named)
    rw [same other named, List.mem_cons, or_iff_right apart]
  | case4 seen id rest hs n hn ih =>
    have named := named_of_nodeNamed? hn
    have both : ∀ other, Named nodes other → (other ∈ visited ++ [id] ↔ other ∈ id :: seen) := by
      intro other known
      rw [List.mem_append, List.mem_singleton, same other known, List.mem_cons, or_comm]
    obtain ⟨within, inside, later⟩ := (ih both).of_append
    rw [List.map_cons, nodeNamed?_id hn, List.append_cons]
    refine .visit (fun hv => hs ((same id named).1 hv)) named (inside.of_filter fun other ho => ?_)
      later
    by_cases known : Named nodes other
    · exact .inl ((both other known).2 (not_not.1 (of_decide_eq_false ho)))
    · exact .inr fun m hm own => known ⟨m, hm, own⟩

/-! ### The order of the node list -/

section

variable {nodes' : List Node} {n : Node}

theorem nodeNamed?_eq_some_iff (unique : (nodes.map Node.id).Nodup) :
    nodeNamed? nodes id = some n ↔ n ∈ nodes ∧ n.id = id := by
  constructor
  · exact fun h => ⟨nodeNamed?_mem h, nodeNamed?_id h⟩
  · rintro ⟨hn, own⟩
    cases hm : nodeNamed? nodes id with
    | none => exact absurd own (nodeNamed?_eq_none_iff.1 hm n hn)
    | some m =>
      rw [eq_of_id_eq unique (nodeNamed?_mem hm) hn ((nodeNamed?_id hm).trans own.symm)]

theorem nodeNamed?_perm (unique : (nodes.map Node.id).Nodup) (h : nodes.Perm nodes') (id : NodeId) :
    nodeNamed? nodes' id = nodeNamed? nodes id := by
  have unique' : (nodes'.map Node.id).Nodup := (h.map Node.id).nodup_iff.1 unique
  apply Option.ext
  intro n
  rw [nodeNamed?_eq_some_iff unique, nodeNamed?_eq_some_iff unique', h.mem_iff]

end

/-- The ancestors of a target come in the order in which the recursion from it discovers them, and
in no other. Each is the node that its id stands for; with one node to an id, the order in which the
nodes are listed makes no difference. -/
theorem ancestors_in_preorder (nodes : List Node) (edges : List Edge) (target : NodeId) :
    let found := ancestors nodes edges target
    (∀ order, Preorder nodes edges [] [target] order ↔ order = found.map Node.id) ∧
    (∀ n ∈ found, nodeNamed? nodes n.id = some n) ∧
    ((nodes.map Node.id).Nodup → ∀ nodes', nodes.Perm nodes' →
      ancestors nodes' edges target = found) := by
  intro found
  have order : Preorder nodes edges [] [target] (found.map Node.id) :=
    search_preorder fun _ _ => Iff.rfl
  refine ⟨fun other => ⟨fun h => h.unique order, fun h => h ▸ order⟩,
    fun n hn => nodeNamed?_of_mem_search hn, fun unique nodes' perm => ?_⟩
  have alike : List.Forall₂ Eq (ancestors nodes' edges target) found := by
    refine ancestors_related (fun id => ?_) target
    rw [nodeNamed?_perm unique perm]
    cases nodeNamed? nodes id with
    | none => exact .none
    | some n => exact .some rfl
  rwa [List.forall₂_eq_eq_eq] at alike

/-- A node that is a source twice comes where it is met first: below `a`, and so before `x`. -/
example :
    let nodes : List Node := ["x", "b", "a", "out"].map fun id => ⟨id, "image", .null⟩
    let edges : List Edge :=
      [⟨"1", "a", "out"⟩, ⟨"2", "b", "out"⟩, ⟨"3", "b", "a"⟩, ⟨"4", "x", "a"⟩]
    (ancestors nodes edges "out").map Node.id = ["out", "a", "b", "x"] := by
  decide +kernel

end ImageGraph
