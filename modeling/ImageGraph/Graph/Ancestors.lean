import ImageGraph.Graph.Workflow

/-!
The nodes that a target depends on. The search walks edges from target to source with a stack, so
cycles are no trouble; nodes come in the order in which they are first reached. Beside it stand a
path relation and the recursive order that the stack works off.
-/

namespace ImageGraph

/-- The sources of the edges into a node, in edge order. -/
def sourcesOf (edges : List Edge) (id : NodeId) : List NodeId :=
  (edges.filter fun e => e.target == id).map Edge.source

/-- The node that an id stands for: of several the last. -/
def nodeNamed? (nodes : List Node) (id : NodeId) : Option Node :=
  nodes.reverse.find? fun n => n.id == id

/-- The edges whose target the search has not seen yet. -/
def unseenEdges (edges : List Edge) (seen : List NodeId) : List Edge :=
  edges.filter fun e => e.target ∉ seen

/-- Following an unseen node trades the edges into it for at most as many stack entries. -/
theorem unseenEdges_length (edges : List Edge) {seen : List NodeId} {id : NodeId}
    (h : id ∉ seen) :
    (unseenEdges edges (id :: seen)).length + (sourcesOf edges id).length =
      (unseenEdges edges seen).length := by
  induction edges with
  | nil => rfl
  | cons e rest ih =>
    simp only [unseenEdges, sourcesOf, List.length_map] at ih ⊢
    by_cases hid : e.target = id
    · simp [hid, h] at ih ⊢
      omega
    · by_cases hs : e.target ∈ seen <;> simp [hid, hs] at ih ⊢ <;> omega

/-- Works off a stack of ids. Each step takes one id off; a node met for the first time puts the
sources of its edges on, the first edge on top. -/
def search (nodes : List Node) (edges : List Edge) (seen stack : List NodeId) : List Node :=
  match stack with
  | [] => []
  | id :: rest =>
    if id ∈ seen then search nodes edges seen rest
    else
      match nodeNamed? nodes id with
      | none => search nodes edges (id :: seen) rest
      | some n =>
        n :: search nodes edges (id :: seen)
          ((sourcesOf edges id).filter (fun s => s ∉ id :: seen) ++ rest)
termination_by (unseenEdges edges seen).length + stack.length
decreasing_by
  · simp
  · have := unseenEdges_length edges ‹id ∉ seen›
    simp only [List.length_cons]
    omega
  · have := unseenEdges_length edges ‹id ∉ seen›
    have := List.length_filter_le (fun s => decide (s ∉ id :: seen)) (sourcesOf edges id)
    simp only [List.length_cons, List.length_append]
    omega

/-- The nodes that `target` depends on, itself first; none if it is no node. -/
def ancestors (nodes : List Node) (edges : List Edge) (target : NodeId) : List Node :=
  search nodes edges [] [target]

/-- An id is reached through edges whose ends are all nodes. -/
inductive Reaches (nodes : List Node) (edges : List Edge) : NodeId → NodeId → Prop where
  | self {id : NodeId} : (∃ n ∈ nodes, n.id = id) → Reaches nodes edges id id
  | step {id source last : NodeId} : (∃ n ∈ nodes, n.id = id) →
      (∃ e ∈ edges, e.target = id ∧ e.source = source) →
      Reaches nodes edges source last → Reaches nodes edges id last

/-- The recursive search from the ids of a list, one after the other: with `seen` behind it, it
has seen `last` in the end, each list in order of discovery. -/
inductive Preorder (nodes : List Node) (edges : List Edge) :
    List NodeId → List NodeId → List NodeId → Prop where
  | done {seen : List NodeId} : Preorder nodes edges seen [] seen
  | skip {seen ids last : List NodeId} {id : NodeId} :
      id ∈ seen ∨ (∀ n ∈ nodes, n.id ≠ id) →
      Preorder nodes edges seen ids last → Preorder nodes edges seen (id :: ids) last
  | visit {seen within ids last : List NodeId} {id : NodeId} :
      id ∉ seen → (∃ n ∈ nodes, n.id = id) →
      Preorder nodes edges (seen ++ [id]) (sourcesOf edges id) within →
      Preorder nodes edges within ids last → Preorder nodes edges seen (id :: ids) last

end ImageGraph
