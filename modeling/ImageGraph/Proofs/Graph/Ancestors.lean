import ImageGraph.Graph.Ancestors
import Mathlib.Data.List.Nodup

/-! The search finds each node that the target reaches backwards, once. What it returns is reached
from the stack, and the stack and the sources of what it returns are among what it has seen. -/

namespace ImageGraph

variable {nodes : List Node} {edges : List Edge} {seen stack rest : List NodeId} {id : NodeId}
  {n : Node}

theorem nodeNamed?_eq_none_iff : nodeNamed? nodes id = none ↔ ∀ n ∈ nodes, n.id ≠ id := by
  simp [nodeNamed?]

theorem nodeNamed?_id (h : nodeNamed? nodes id = some n) : n.id = id :=
  eq_of_beq (List.find?_some (p := fun m : Node => m.id == id) h)

theorem nodeNamed?_mem (h : nodeNamed? nodes id = some n) : n ∈ nodes :=
  List.mem_reverse.1 (List.mem_of_find?_eq_some h)

/-- Nobody after the named node has its id. -/
theorem nodeNamed?_last (h : nodeNamed? nodes id = some n) :
    ∃ before after, nodes = before ++ n :: after ∧ ∀ m ∈ after, m.id ≠ id := by
  obtain ⟨-, front, back, hl, hf⟩ := List.find?_eq_some_iff_append.1 h
  refine ⟨back.reverse, front.reverse, ?_, fun m hm => ?_⟩
  · rw [← nodes.reverse_reverse, hl]
    simp
  · simpa using hf m (List.mem_reverse.1 hm)

/-- Some node goes by an id. -/
abbrev Named (nodes : List Node) (id : NodeId) : Prop :=
  ∃ n ∈ nodes, n.id = id

theorem named_of_nodeNamed? (h : nodeNamed? nodes id = some n) : Named nodes id :=
  ⟨n, nodeNamed?_mem h, nodeNamed?_id h⟩

theorem not_named_of_nodeNamed? (h : nodeNamed? nodes id = none) : ¬ Named nodes id := by
  rintro ⟨n, hn, hid⟩
  exact nodeNamed?_eq_none_iff.1 h n hn hid

theorem mem_sourcesOf {source : NodeId} :
    source ∈ sourcesOf edges id ↔ ∃ e ∈ edges, e.target = id ∧ e.source = source := by
  simp [sourcesOf, and_assoc]

theorem search_seen (h : id ∈ seen) :
    search nodes edges seen (id :: rest) = search nodes edges seen rest := by
  rw [search, if_pos h]

theorem search_unnamed (h : id ∉ seen) (hn : nodeNamed? nodes id = none) :
    search nodes edges seen (id :: rest) = search nodes edges (id :: seen) rest := by
  rw [search, if_neg h, hn]

theorem search_named (h : id ∉ seen) (hn : nodeNamed? nodes id = some n) :
    search nodes edges seen (id :: rest) =
      n :: search nodes edges (id :: seen)
        ((sourcesOf edges id).filter (fun s => s ∉ id :: seen) ++ rest) := by
  rw [search, if_neg h, hn]

theorem nodeNamed?_map {g : Node → Node} (hg : ∀ n, (g n).id = n.id) :
    nodeNamed? (nodes.map g) id = (nodeNamed? nodes id).map g := by
  have same : (fun n : Node => n.id == id) ∘ g = fun n => n.id == id :=
    funext fun n => congrArg (· == id) (hg n)
  rw [nodeNamed?, nodeNamed?, ← List.map_reverse, List.find?_map, same]

/-- The search goes by ids alone. -/
theorem search_map {g : Node → Node} (hg : ∀ n, (g n).id = n.id) :
    search (nodes.map g) edges seen stack = (search nodes edges seen stack).map g := by
  fun_induction search nodes edges seen stack with
  | case1 => rw [search, List.map_nil]
  | case2 seen id rest hs ih => rw [search_seen hs, ih]
  | case3 seen id rest hs hn ih =>
    rw [search_unnamed hs (by rw [nodeNamed?_map hg, hn, Option.map_none]), ih]
  | case4 seen id rest hs n hn ih =>
    rw [search_named hs (by rw [nodeNamed?_map hg, hn, Option.map_some]), ih, List.map_cons]

theorem ancestors_map {g : Node → Node} (hg : ∀ n, (g n).id = n.id) (target : NodeId) :
    ancestors (nodes.map g) edges target = (ancestors nodes edges target).map g :=
  search_map hg

theorem nodeNamed?_of_mem_search (h : n ∈ search nodes edges seen stack) :
    nodeNamed? nodes n.id = some n := by
  fun_induction search nodes edges seen stack with
  | case1 => cases h
  | case2 _ _ _ _ ih => exact ih h
  | case3 _ _ _ _ _ ih => exact ih h
  | case4 _ id _ _ m hm ih =>
    obtain rfl | h := List.mem_cons.1 h
    · rwa [nodeNamed?_id hm]
    · exact ih h

theorem not_mem_seen_of_mem_search (h : n ∈ search nodes edges seen stack) : n.id ∉ seen := by
  fun_induction search nodes edges seen stack with
  | case1 => cases h
  | case2 _ _ _ _ ih => exact ih h
  | case3 _ _ _ _ _ ih => exact fun hs => ih h (List.mem_cons_of_mem _ hs)
  | case4 _ id _ hid m hm ih =>
    obtain rfl | h := List.mem_cons.1 h
    · rwa [nodeNamed?_id hm]
    · exact fun hs => ih h (List.mem_cons_of_mem _ hs)

theorem nodup_search (nodes : List Node) (edges : List Edge) (seen stack : List NodeId) :
    ((search nodes edges seen stack).map Node.id).Nodup := by
  fun_induction search nodes edges seen stack with
  | case1 => exact List.nodup_nil
  | case2 _ _ _ _ ih => exact ih
  | case3 _ _ _ _ _ ih => exact ih
  | case4 _ id _ _ m hm ih =>
    refine List.nodup_cons.2 ⟨fun h => ?_, ih⟩
    obtain ⟨other, ho, same⟩ := List.mem_map.1 h
    refine not_mem_seen_of_mem_search ho ?_
    rw [same, nodeNamed?_id hm]
    exact List.mem_cons_self

/-- The search returns nothing but what some id on the stack reaches. -/
theorem reaches_of_mem_search (h : n ∈ search nodes edges seen stack) :
    ∃ start ∈ stack, Reaches nodes edges start n.id := by
  fun_induction search nodes edges seen stack with
  | case1 => cases h
  | case2 _ _ _ _ ih =>
    obtain ⟨start, hs, reached⟩ := ih h
    exact ⟨start, List.mem_cons_of_mem _ hs, reached⟩
  | case3 _ _ _ _ _ ih =>
    obtain ⟨start, hs, reached⟩ := ih h
    exact ⟨start, List.mem_cons_of_mem _ hs, reached⟩
  | case4 _ id _ _ m hm ih =>
    obtain rfl | h := List.mem_cons.1 h
    · refine ⟨id, List.mem_cons_self, ?_⟩
      rw [nodeNamed?_id hm]
      exact .self (named_of_nodeNamed? hm)
    · obtain ⟨start, hs, reached⟩ := ih h
      obtain hs | hs := List.mem_append.1 hs
      · have edge := mem_sourcesOf.1 (List.mem_filter.1 hs).1
        exact ⟨id, List.mem_cons_self, .step (named_of_nodeNamed? hm) edge reached⟩
      · exact ⟨start, List.mem_cons_of_mem _ hs, reached⟩

/-- What a search is done with: an id that it had seen before or has returned, or one of no node. -/
def Covered (nodes : List Node) (seen : List NodeId) (found : List Node) (id : NodeId) : Prop :=
  Named nodes id → id ∈ seen ∨ id ∈ found.map Node.id

/-- The search leaves nothing out: it is done with the whole stack, and with the sources of all that
it returns. -/
theorem search_covers (nodes : List Node) (edges : List Edge) (seen stack : List NodeId) :
    (∀ id ∈ stack, Covered nodes seen (search nodes edges seen stack) id) ∧
      ∀ n ∈ search nodes edges seen stack, ∀ source ∈ sourcesOf edges n.id,
        Covered nodes seen (search nodes edges seen stack) source := by
  fun_induction search nodes edges seen stack with
  | case1 => exact ⟨fun _ h => (List.not_mem_nil h).elim, fun _ h => (List.not_mem_nil h).elim⟩
  | case2 seen id rest hid ih =>
    refine ⟨fun other ho => ?_, ih.2⟩
    obtain rfl | ho := List.mem_cons.1 ho
    · exact fun _ => .inl hid
    · exact ih.1 other ho
  | case3 seen id rest hid hn ih =>
    have unnamed := not_named_of_nodeNamed? hn
    -- The id of no node counts as seen from now on, but it need not have been seen before.
    have narrow : ∀ other, Covered nodes (id :: seen) (search nodes edges (id :: seen) rest) other →
        Covered nodes seen (search nodes edges (id :: seen) rest) other := by
      intro other h named
      obtain hs | hf := h named
      · obtain rfl | hs := List.mem_cons.1 hs
        · exact absurd named unnamed
        · exact .inl hs
      · exact .inr hf
    refine ⟨fun other ho => ?_, fun m hm source hs => narrow source (ih.2 m hm source hs)⟩
    obtain rfl | ho := List.mem_cons.1 ho
    · exact fun named => absurd named unnamed
    · exact narrow other (ih.1 other ho)
  | case4 seen id rest hid m hm ih =>
    have same := nodeNamed?_id hm
    -- What was seen or returned after this node is so with the node in front.
    have widen : ∀ {found : List Node} {other : NodeId}, Covered nodes (id :: seen) found other →
        Covered nodes seen (m :: found) other := by
      intro found other h named
      rw [List.map_cons, same, List.mem_cons]
      obtain hs | hf := h named
      · obtain rfl | hs := List.mem_cons.1 hs
        · exact .inr (.inl rfl)
        · exact .inl hs
      · exact .inr (.inr hf)
    refine ⟨fun other ho => ?_, fun found hf source hs => ?_⟩
    · obtain rfl | ho := List.mem_cons.1 ho
      · exact widen fun _ => .inl List.mem_cons_self
      · exact widen (ih.1 other (List.mem_append_right _ ho))
    · obtain rfl | hf := List.mem_cons.1 hf
      · rw [same] at hs
        by_cases hv : source ∈ id :: seen
        · exact widen fun _ => .inl hv
        · refine widen (ih.1 source (List.mem_append_left _ ?_))
          exact List.mem_filter.2 ⟨hs, decide_eq_true hv⟩
      · exact widen (ih.2 found hf source hs)

theorem Reaches.named {last : NodeId} (h : Reaches nodes edges id last) : Named nodes id := by
  cases h <;> assumption

/-- What is reached from an ancestor is an ancestor. -/
theorem mem_ancestors_of_reaches {target last : NodeId} (reached : Reaches nodes edges id last)
    (h : id ∈ (ancestors nodes edges target).map Node.id) :
    last ∈ (ancestors nodes edges target).map Node.id := by
  have covered := (search_covers nodes edges [] [target]).2
  induction reached with
  | self => exact h
  | @step id source last _ edge reached ih =>
    obtain ⟨n, hn, rfl⟩ := List.mem_map.1 h
    have covered := covered n hn source (mem_sourcesOf.2 edge) reached.named
    exact ih (covered.resolve_left List.not_mem_nil)

theorem mem_ancestors_iff {target : NodeId} :
    id ∈ (ancestors nodes edges target).map Node.id ↔ Reaches nodes edges target id := by
  constructor
  · intro h
    obtain ⟨n, hn, rfl⟩ := List.mem_map.1 h
    obtain ⟨start, hs, reached⟩ := reaches_of_mem_search hn
    rwa [List.mem_singleton.1 hs] at reached
  · intro reached
    have covered := (search_covers nodes edges [] [target]).1 target List.mem_cons_self
    exact mem_ancestors_of_reaches reached
      ((covered reached.named).resolve_left List.not_mem_nil)

theorem head?_ancestors (nodes : List Node) (edges : List Edge) (target : NodeId) :
    (ancestors nodes edges target).head? = nodeNamed? nodes target := by
  rw [ancestors]
  cases hn : nodeNamed? nodes target with
  | none =>
    rw [search_unnamed List.not_mem_nil hn, search]
    rfl
  | some n =>
    rw [search_named List.not_mem_nil hn]
    rfl

theorem ancestors_eq_nil_iff {target : NodeId} :
    ancestors nodes edges target = [] ↔ ¬ Named nodes target := by
  rw [← List.head?_eq_none_iff, head?_ancestors, nodeNamed?_eq_none_iff]
  simp

/-! ### The order of nodes and edges -/

section

variable {nodes' : List Node} {edges' : List Edge}

theorem Reaches.perm {last : NodeId} (hn : nodes.Perm nodes') (he : edges.Perm edges')
    (h : Reaches nodes edges id last) : Reaches nodes' edges' id last := by
  have named {id : NodeId} : Named nodes id → Named nodes' id := by
    rintro ⟨n, hn', same⟩
    exact ⟨n, hn.mem_iff.1 hn', same⟩
  induction h with
  | self known => exact .self (named known)
  | step known edge _ ih =>
    obtain ⟨e, he', ends⟩ := edge
    exact .step (named known) ⟨e, he.mem_iff.1 he', ends⟩ ih

theorem eq_of_id_eq {m : Node} (unique : (nodes.map Node.id).Nodup) (hm : m ∈ nodes)
    (hn : n ∈ nodes) (same : m.id = n.id) : m = n :=
  List.inj_on_of_nodup_map unique hm hn same

theorem mem_ancestors_iff_of_unique (unique : (nodes.map Node.id).Nodup) {target : NodeId} :
    n ∈ ancestors nodes edges target ↔ n ∈ nodes ∧ Reaches nodes edges target n.id := by
  constructor
  · intro h
    exact ⟨nodeNamed?_mem (nodeNamed?_of_mem_search h),
      mem_ancestors_iff.1 (List.mem_map_of_mem h)⟩
  · rintro ⟨hn, reached⟩
    obtain ⟨m, hm, same⟩ := List.mem_map.1 (mem_ancestors_iff.2 reached)
    have known := nodeNamed?_mem (nodeNamed?_of_mem_search hm)
    rwa [← eq_of_id_eq unique known hn same]

/-- With one node to an id, which nodes are ancestors does not depend on the order in which nodes
and edges are listed. -/
theorem ancestors_perm (unique : (nodes.map Node.id).Nodup) (hn : nodes.Perm nodes')
    (he : edges.Perm edges') (target : NodeId) :
    (ancestors nodes edges target).Perm (ancestors nodes' edges' target) := by
  have unique' : (nodes'.map Node.id).Nodup := (hn.map Node.id).nodup_iff.1 unique
  refine (List.perm_ext_iff_of_nodup (nodup_search nodes edges [] [target]).of_map
    (nodup_search nodes' edges' [] [target]).of_map).2 fun n => ?_
  change n ∈ ancestors nodes edges target ↔ n ∈ ancestors nodes' edges' target
  rw [mem_ancestors_iff_of_unique unique, mem_ancestors_iff_of_unique unique', hn.mem_iff]
  exact and_congr_right fun _ => ⟨.perm hn he, .perm hn.symm he.symm⟩

end

/-- The ancestors of a target, whatever the nodes and edges: none if no node has its id; otherwise
the target comes first, no id comes twice, and an id is among them just if the target reaches it
backwards. Of several nodes with one id it is the last that counts. -/
theorem ancestors_exact (nodes : List Node) (edges : List Edge) (target : NodeId) :
    let found := ancestors nodes edges target
    (found = [] ↔ ∀ n ∈ nodes, n.id ≠ target) ∧
    (∀ first ∈ found.head?, first.id = target) ∧
    (found.map Node.id).Nodup ∧
    (∀ id, id ∈ found.map Node.id ↔ Reaches nodes edges target id) ∧
    ∀ n ∈ found, ∃ before after, nodes = before ++ n :: after ∧ ∀ m ∈ after, m.id ≠ n.id := by
  refine ⟨?_, fun first hf => ?_, nodup_search nodes edges [] [target],
    fun id => mem_ancestors_iff, fun n hn => nodeNamed?_last (nodeNamed?_of_mem_search hn)⟩
  · rw [← List.head?_eq_none_iff, head?_ancestors, nodeNamed?_eq_none_iff]
  · rw [head?_ancestors] at hf
    exact nodeNamed?_id hf

/-- A cycle through the target, a self-loop, a source of no node, and an id that two nodes have. -/
example :
    let nodes : List Node :=
      [⟨"a", "early", .null⟩, ⟨"out", "output", .null⟩, ⟨"a", "late", .null⟩]
    let edges : List Edge :=
      [⟨"1", "ghost", "out"⟩, ⟨"2", "a", "out"⟩, ⟨"3", "a", "a"⟩, ⟨"4", "out", "a"⟩]
    (ancestors nodes edges "out").map Node.kind = ["output", "late"] := by
  decide +kernel

end ImageGraph
