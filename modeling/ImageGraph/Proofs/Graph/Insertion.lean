import ImageGraph.Proofs.Graph.Ancestors
import ImageGraph.Request.Compile

/-! Nodes and edges that a target has nothing to do with. Wherever they are put among the others,
the search comes upon the same ids and goes on from them in the same order. -/

namespace ImageGraph

/-- The second list is the first with items put in, in any places, of those that may be put in. -/
inductive Inserted {α : Type} (may : α → Prop) : List α → List α → Prop where
  | nil : Inserted may [] []
  | keep {x : α} {xs ys : List α} : Inserted may xs ys → Inserted may (x :: xs) (x :: ys)
  | add {y : α} {xs ys : List α} : may y → Inserted may xs ys → Inserted may xs (y :: ys)

theorem Inserted.filter {α : Type} {may : α → Prop} {xs ys : List α} (h : Inserted may xs ys)
    {p : α → Bool} (out : ∀ y, may y → p y = false) : ys.filter p = xs.filter p := by
  induction h with
  | nil => rfl
  | keep _ ih => rw [List.filter_cons, List.filter_cons, ih]
  | @add y _ _ hy _ ih => rw [List.filter_cons_of_neg (Bool.eq_false_iff.1 (out y hy)), ih]

section

variable {nodes nodes' : List Node} {edges edges' : List Edge} {target id : NodeId}

/-- An id that the search for a target comes upon: the target, or the source of an edge into an
ancestor. There may be no node of this id. -/
def Met (nodes : List Node) (edges : List Edge) (target id : NodeId) : Prop :=
  id = target ∨ ∃ e ∈ edges, e.source = id ∧ e.target ∈ (ancestors nodes edges target).map Node.id

instance : Decidable (Met nodes edges target id) :=
  inferInstanceAs (Decidable (_ ∨ _))

/-- What is met and has a node is an ancestor. -/
theorem Met.mem_ancestors (met : Met nodes edges target id) (named : Named nodes id) :
    id ∈ (ancestors nodes edges target).map Node.id := by
  obtain rfl | ⟨e, he, rfl, reached⟩ := met
  · exact mem_ancestors_iff.2 (.self named)
  · have known : Named nodes e.target := by
      obtain ⟨n, hn, same⟩ := List.mem_map.1 reached
      exact same ▸ named_of_nodeNamed? (nodeNamed?_of_mem_search hn)
    exact mem_ancestors_of_reaches (.step known ⟨e, he, rfl, rfl⟩ (.self named)) reached

theorem Met.of_source (met : Met nodes edges target id) (named : Named nodes id)
    {source : NodeId} (hs : source ∈ sourcesOf edges id) : Met nodes edges target source := by
  obtain ⟨e, he, into, from_⟩ := mem_sourcesOf.1 hs
  exact .inr ⟨e, he, from_, into ▸ met.mem_ancestors named⟩

/-- Two searches take the same course as long as what they come upon has the same node and the same
sources for both. -/
theorem search_of_met {seen stack : List NodeId} (within : ∀ id ∈ stack, Met nodes edges target id)
    (sameNode : ∀ id, Met nodes edges target id → nodeNamed? nodes' id = nodeNamed? nodes id)
    (sameSources : ∀ id ∈ (ancestors nodes edges target).map Node.id,
      sourcesOf edges' id = sourcesOf edges id) :
    search nodes' edges' seen stack = search nodes edges seen stack := by
  fun_induction search nodes edges seen stack with
  | case1 => rw [search]
  | case2 seen id rest hs ih =>
    rw [search_seen hs]
    exact ih fun other ho => within other (List.mem_cons_of_mem _ ho)
  | case3 seen id rest hs hn ih =>
    rw [search_unnamed hs ((sameNode id (within id List.mem_cons_self)).trans hn)]
    exact ih fun other ho => within other (List.mem_cons_of_mem _ ho)
  | case4 seen id rest hs n hn ih =>
    have met := within id List.mem_cons_self
    have named := named_of_nodeNamed? hn
    rw [search_named hs ((sameNode id met).trans hn), sameSources id (met.mem_ancestors named)]
    refine congrArg (n :: ·) (ih fun other ho => ?_)
    obtain ho | ho := List.mem_append.1 ho
    · exact met.of_source named (List.mem_filter.1 ho).1
    · exact within other (List.mem_cons_of_mem _ ho)

/-- A node that the search for a target does not come upon. -/
def Node.Unmet (nodes : List Node) (edges : List Edge) (target : NodeId) (n : Node) : Prop :=
  ¬ Met nodes edges target n.id

/-- An edge that leads into no ancestor of a target, wherever it begins. -/
def Edge.Unmet (nodes : List Node) (edges : List Edge) (target : NodeId) (e : Edge) : Prop :=
  e.target ∉ (ancestors nodes edges target).map Node.id

theorem nodeNamed?_inserted (h : Inserted (Node.Unmet nodes edges target) nodes nodes')
    (met : Met nodes edges target id) : nodeNamed? nodes' id = nodeNamed? nodes id := by
  have picked : nodes'.filter (fun n => n.id == id) = nodes.filter fun n => n.id == id :=
    h.filter fun n unmet => beq_false_of_ne fun same => unmet (same ▸ met)
  rw [nodeNamed?, nodeNamed?, ← List.head?_filter, ← List.head?_filter, List.filter_reverse,
    List.filter_reverse, picked]

theorem sourcesOf_inserted (h : Inserted (Edge.Unmet nodes edges target) edges edges')
    (reached : id ∈ (ancestors nodes edges target).map Node.id) :
    sourcesOf edges' id = sourcesOf edges id := by
  have picked : edges'.filter (fun e => e.target == id) = edges.filter fun e => e.target == id :=
    h.filter fun e unmet => beq_false_of_ne fun same => unmet (same ▸ reached)
  rw [sourcesOf, sourcesOf, picked]

theorem ancestors_inserted (hn : Inserted (Node.Unmet nodes edges target) nodes nodes')
    (he : Inserted (Edge.Unmet nodes edges target) edges edges') :
    ancestors nodes' edges' target = ancestors nodes edges target :=
  search_of_met (fun _ h => .inl (List.mem_singleton.1 h)) (fun _ => nodeNamed?_inserted hn)
    fun _ => sourcesOf_inserted he

/-- What a target has nothing to do with makes no difference to it: nodes that are neither the
target nor the source of an edge into an ancestor, and edges that lead into no ancestor. With any of
them put in anywhere, the ancestors are the same nodes in the same order, and the request is the
same or fails for the same reason. -/
theorem compile_inserted (hn : Inserted (Node.Unmet nodes edges target) nodes nodes')
    (he : Inserted (Edge.Unmet nodes edges target) edges edges') :
    ancestors nodes' edges' target = ancestors nodes edges target ∧
      ∀ settings : Settings,
        compile settings nodes' edges' target = compile settings nodes edges target := by
  have same := ancestors_inserted hn he
  refine ⟨same, fun settings => ?_⟩
  rw [compile, compile, same]

/-- A prompt and an engine, an edge that comes from no node, and a second output. What is put in
begins at the engine, leads nowhere, or goes by the id of a node that is no ancestor. -/
theorem compile_inserted_around :
    let nodes : List Node := [⟨"out", "output", .null⟩,
      ⟨"words", "prompt", .obj [("text", .str "x")]⟩, ⟨"other", "output", .null⟩,
      ⟨"engine", "engine", .obj [("model", .str "m")]⟩]
    let edges : List Edge := [⟨"1", "ghost", "out"⟩, ⟨"2", "engine", "out"⟩,
      ⟨"3", "words", "engine"⟩, ⟨"4", "out", "engine"⟩]
    let nodes' : List Node := [⟨"tool", "tool-upscale", .null⟩, ⟨"out", "output", .null⟩,
      ⟨"words", "prompt", .obj [("text", .str "x")]⟩, ⟨"other", "output", .null⟩,
      ⟨"other", "tool-sharpen", .null⟩, ⟨"engine", "engine", .obj [("model", .str "m")]⟩]
    let edges' : List Edge := [⟨"5", "engine", "other"⟩, ⟨"1", "ghost", "out"⟩,
      ⟨"2", "engine", "out"⟩, ⟨"6", "out", "tool"⟩, ⟨"3", "words", "engine"⟩,
      ⟨"4", "out", "engine"⟩, ⟨"7", "nowhere", "ghost"⟩]
    Inserted (Node.Unmet nodes edges "out") nodes nodes' ∧
      Inserted (Edge.Unmet nodes edges "out") edges edges' ∧
      (ancestors nodes' edges' "out").map Node.id = ["out", "engine", "words"] ∧
      ∀ settings, compile settings nodes' edges' "out" = compile settings nodes edges "out" := by
  intro nodes edges nodes' edges'
  have apart : ∀ id ∈ ["tool", "other"], ¬ Met nodes edges "out" id := by decide +kernel
  have aside : ∀ id ∈ ["other", "tool", "ghost"],
      id ∉ (ancestors nodes edges "out").map Node.id := by decide +kernel
  have hn : Inserted (Node.Unmet nodes edges "out") nodes nodes' :=
    .add (apart "tool" (by simp)) (.keep (.keep (.keep (.add (apart "other" (by simp))
      (.keep .nil)))))
  have he : Inserted (Edge.Unmet nodes edges "out") edges edges' :=
    .add (aside "other" (by simp)) (.keep (.keep (.add (aside "tool" (by simp))
      (.keep (.keep (.add (aside "ghost" (by simp)) .nil))))))
  obtain ⟨same, requests⟩ := compile_inserted hn he
  refine ⟨hn, he, ?_, requests⟩
  rw [same]
  decide +kernel

end

end ImageGraph
