import ImageGraph.Proofs.Graph.Ancestors

/-! The search pop by pop. Its stack may hold an id many times and may grow, so its length bounds
nothing. But each id on it after the first was pushed for an edge into an expanded node, and no node
is expanded twice: the edges pay for the pushes, and the pushes for the pops. -/

namespace ImageGraph

/-- The edges into nodes with the given ids. -/
def edgesInto (edges : List Edge) (ids : List NodeId) : List Edge :=
  edges.filter fun e => e.target ∈ ids

/-- A search between two pops of its stack. -/
structure Walk where
  seen : List NodeId
  stack : List NodeId
  /-- The nodes whose sources were looked at, in order. -/
  expanded : List Node
  /-- How many ids were put on the stack after the target. -/
  pushes : Nat

namespace Walk

def start (target : NodeId) : Walk := ⟨[], [target], [], 0⟩

/-- Takes an id off the stack. It is expanded if it has a node and was not seen before: those of its
sources that are not seen either go on the stack. -/
def pop? (nodes : List Node) (edges : List Edge) : Walk → Option Walk
  | ⟨_, [], _, _⟩ => none
  | ⟨seen, id :: rest, expanded, pushes⟩ =>
    if id ∈ seen then some ⟨seen, rest, expanded, pushes⟩
    else
      match nodeNamed? nodes id with
      | none => some ⟨id :: seen, rest, expanded, pushes⟩
      | some n =>
        let sources := (sourcesOf edges id).filter fun s => s ∉ id :: seen
        some ⟨id :: seen, sources ++ rest, expanded ++ [n], pushes + sources.length⟩

/-- The search for a target after a number of pops, if the stack held an id for each of them. -/
def after? (nodes : List Node) (edges : List Edge) (target : NodeId) : Nat → Option Walk
  | 0 => some (start target)
  | k + 1 => (after? nodes edges target k).bind (pop? nodes edges)

end Walk

variable {nodes : List Node} {edges : List Edge} {target id : NodeId} {ids : List NodeId}

theorem edgesInto_length (edges : List Edge) (ids : List NodeId) :
    edges.length = (edgesInto edges ids).length + (unseenEdges edges ids).length := by
  rw [edgesInto, unseenEdges, List.length_eq_length_filter_add fun e => decide (e.target ∈ ids)]
  simp only [decide_not]

/-- The edges into one node more are those that its sources stand for. -/
theorem edgesInto_length_append (fresh : id ∉ ids) :
    (edgesInto edges (ids ++ [id])).length =
      (edgesInto edges ids).length + (sourcesOf edges id).length := by
  have same : edgesInto edges (ids ++ [id]) = edgesInto edges (id :: ids) := by
    refine List.filter_congr fun e _ => decide_eq_decide.2 ?_
    rw [List.mem_append, List.mem_singleton, List.mem_cons, or_comm]
  have before := edgesInto_length edges ids
  have later := edgesInto_length edges (id :: ids)
  have traded := unseenEdges_length edges fresh
  rw [same]
  omega

namespace Walk

/-- What the search for a target keeps to, with a number of pops behind it. -/
structure Kept (nodes : List Node) (edges : List Edge) (target : NodeId) (pops : Nat) (w : Walk) :
    Prop where
  /-- Each id that was put on the stack has been popped or is still there. -/
  balance : pops + w.stack.length = 1 + w.pushes
  pushes_le : w.pushes ≤ (edgesInto edges (w.expanded.map Node.id)).length
  /-- What is left to find is what the search finds from here. -/
  found : w.expanded ++ search nodes edges w.seen w.stack = ancestors nodes edges target

variable {w w' : Walk} {pops : Nat}

theorem Kept.start (nodes : List Node) (edges : List Edge) (target : NodeId) :
    Kept nodes edges target 0 (start target) :=
  ⟨rfl, Nat.zero_le _, rfl⟩

/-- What a search has expanded is part of what it returns, in which no id comes twice. -/
private theorem nodup_of_found {expanded : List Node} {seen stack : List NodeId}
    (found : expanded ++ search nodes edges seen stack = ancestors nodes edges target) :
    (expanded.map Node.id).Nodup := by
  have all := nodup_search nodes edges [] [target]
  rw [← ancestors, ← found, List.map_append] at all
  exact all.of_append_left

/-- What a pop can come to: the id on top was seen before, has no node, or is expanded. -/
theorem pop?_cases (popped : w.pop? nodes edges = some w') :
    ∃ id rest, w.stack = id :: rest ∧
      ((id ∈ w.seen ∧ w' = { w with stack := rest }) ∨
        (id ∉ w.seen ∧ nodeNamed? nodes id = none ∧
          w' = { w with seen := id :: w.seen, stack := rest }) ∨
        ∃ n sources, id ∉ w.seen ∧ nodeNamed? nodes id = some n ∧
          sources = (sourcesOf edges id).filter (fun s => s ∉ id :: w.seen) ∧
          w' = ⟨id :: w.seen, sources ++ rest, w.expanded ++ [n], w.pushes + sources.length⟩) := by
  fun_cases pop? nodes edges w with
  | case1 => cases popped
  | case2 seen id rest expanded pushes again =>
    rw [pop?, if_pos again] at popped
    cases popped
    exact ⟨id, rest, rfl, .inl ⟨again, rfl⟩⟩
  | case3 seen id rest expanded pushes fresh unnamed =>
    rw [pop?, if_neg fresh, unnamed] at popped
    cases popped
    exact ⟨id, rest, rfl, .inr (.inl ⟨fresh, unnamed, rfl⟩)⟩
  | case4 seen id rest expanded pushes fresh n named sources =>
    rw [pop?, if_neg fresh, named] at popped
    cases popped
    exact ⟨id, rest, rfl, .inr (.inr ⟨n, sources, fresh, named, rfl, rfl⟩)⟩

theorem Kept.pop (h : Kept nodes edges target pops w) (popped : w.pop? nodes edges = some w') :
    Kept nodes edges target (pops + 1) w' := by
  have balance := h.balance
  have found := h.found
  obtain ⟨id, rest, top, step⟩ := pop?_cases popped
  rw [top, List.length_cons] at balance
  rw [top] at found
  obtain ⟨again, rfl⟩ | ⟨fresh, unnamed, rfl⟩ | ⟨n, sources, fresh, named, hs, rfl⟩ := step
  · rw [search_seen again] at found
    exact ⟨by simp only; omega, h.pushes_le, found⟩
  · rw [search_unnamed fresh unnamed] at found
    exact ⟨by simp only; omega, h.pushes_le, found⟩
  · rw [search_named fresh named, List.append_cons, ← hs] at found
    refine ⟨?_, ?_, found⟩
    · simp only [List.length_append]
      omega
    · have once := nodup_of_found found
      rw [List.map_append, List.map_singleton, nodeNamed?_id named] at once
      have new : id ∉ w.expanded.map Node.id := fun old =>
        List.disjoint_of_nodup_append once old (List.mem_singleton_self id)
      have paid : sources.length ≤ (sourcesOf edges id).length := hs ▸ List.length_filter_le ..
      have before := h.pushes_le
      simp only [List.map_append, List.map_singleton, nodeNamed?_id named,
        edgesInto_length_append new]
      omega

theorem kept_after (reached : after? nodes edges target pops = some w) :
    Kept nodes edges target pops w := by
  induction pops generalizing w with
  | zero =>
    cases reached
    exact .start nodes edges target
  | succ pops ih =>
    obtain ⟨before, earlier, popped⟩ := Option.bind_eq_some_iff.1 reached
    exact (ih earlier).pop popped

/-- The number of pops never exceeds what the edges pay for. -/
theorem Kept.pops_le (h : Kept nodes edges target pops w) : pops ≤ 1 + edges.length := by
  have balance := h.balance
  have pushes := h.pushes_le
  have parts := edgesInto_length edges (w.expanded.map Node.id)
  omega

theorem stack_of_pop?_eq_none (h : w.pop? nodes edges = none) : w.stack = [] := by
  fun_cases pop? nodes edges w with
  | case1 => rfl
  | case2 _ _ _ _ _ again => simp [pop?, again] at h
  | case3 _ _ _ _ _ fresh unnamed => simp [pop?, fresh, unnamed] at h
  | case4 _ _ _ _ _ fresh _ named => simp [pop?, fresh, named] at h

/-- A search that does not get as far has come to an empty stack before. -/
theorem exists_stack_nil (short : after? nodes edges target pops = none) :
    ∃ k < pops, ∃ w, after? nodes edges target k = some w ∧ w.stack = [] := by
  induction pops with
  | zero => cases short
  | succ pops ih =>
    cases reached : after? nodes edges target pops with
    | none =>
      obtain ⟨k, hk, stopped⟩ := ih reached
      exact ⟨k, Nat.lt_succ_of_lt hk, stopped⟩
    | some w =>
      rw [after?, reached] at short
      exact ⟨pops, pops.lt_succ_self, w, reached, stack_of_pop?_eq_none short⟩

end Walk

open Walk

/-- The search for a target stops, whatever the nodes and edges: after at most one pop more than
there are edges its stack is empty, and it has expanded the ancestors. At every moment up to then no
id has been expanded twice, what was popped and what is on the stack make up the target and all that
was pushed, no more was pushed than there are edges into expanded nodes, and the search goes on to
find the ancestors that are left. -/
theorem search_stops (nodes : List Node) (edges : List Edge) (target : NodeId) :
    (∃ pops ≤ 1 + edges.length, ∃ w, after? nodes edges target pops = some w ∧
      w.stack = [] ∧ w.expanded = ancestors nodes edges target) ∧
    ∀ pops w, after? nodes edges target pops = some w →
      (w.expanded.map Node.id).Nodup ∧
      pops + w.stack.length = 1 + w.pushes ∧
      w.pushes ≤ (edgesInto edges (w.expanded.map Node.id)).length ∧
      pops ≤ 1 + edges.length ∧
      w.expanded ++ search nodes edges w.seen w.stack = ancestors nodes edges target := by
  refine ⟨?_, fun pops w reached => ?_⟩
  · have beyond : after? nodes edges target (2 + edges.length) = none := by
      rw [Option.eq_none_iff_forall_ne_some]
      intro w reached
      have within := (kept_after reached).pops_le
      omega
    obtain ⟨pops, less, w, reached, stack⟩ := exists_stack_nil beyond
    refine ⟨pops, by omega, w, reached, stack, ?_⟩
    have found := (kept_after reached).found
    rwa [stack, search, List.append_nil] at found
  · have kept := kept_after reached
    exact ⟨nodup_of_found kept.found, kept.balance, kept.pushes_le, kept.pops_le, kept.found⟩

/-- A cycle, a self-loop, two edges between the same nodes and a source of no node. After two pops
all is expanded, but an id of no node and one that was seen are left on the stack. -/
theorem search_stops_between :
    let nodes : List Node := ["out", "a"].map fun id => ⟨id, "image", .null⟩
    let edges : List Edge := [⟨"1", "a", "out"⟩, ⟨"2", "a", "out"⟩, ⟨"3", "a", "a"⟩,
      ⟨"4", "out", "a"⟩, ⟨"5", "ghost", "a"⟩]
    ∃ w, after? nodes edges "out" 2 = some w ∧ w.stack = ["ghost", "a"] ∧
      w.expanded.map Node.id = ["out", "a"] ∧ (w.expanded.map Node.id).Nodup ∧
      2 + w.stack.length = 1 + w.pushes ∧
      w.pushes ≤ (edgesInto edges (w.expanded.map Node.id)).length ∧ 2 ≤ 1 + edges.length ∧
      w.expanded ++ search nodes edges w.seen w.stack = ancestors nodes edges "out" := by
  intro nodes edges
  have between : (after? nodes edges "out" 2).map (fun w => (w.stack, w.expanded.map Node.id)) =
      some (["ghost", "a"], ["out", "a"]) := by decide +kernel
  obtain ⟨w, reached, both⟩ := Option.map_eq_some_iff.1 between
  obtain ⟨stack, expanded⟩ := Prod.mk.inj both
  exact ⟨w, reached, stack, expanded, (search_stops nodes edges "out").2 2 w reached⟩

end ImageGraph
