import ImageGraph.Graph.Workflow
import ImageGraph.Proofs.Graph.Ancestors
import Mathlib.Data.List.Forall2

/-! What a patch does to attributes. A key of the patch takes its value or, if that is null, is
removed; every other attribute stays. In a workflow only the node of the patch changes. -/

namespace ImageGraph

open Json

/-- What a patch makes of the value under a key. -/
def patchedValue (patched old : Option Json) : Option Json :=
  match patched with
  | some v => if v.isNull then none else some v
  | none => old

private theorem get?_foldl_patch (entries : List (String × Json)) (hs : Ascending entries)
    (o : Object) (k : String) :
    (entries.foldl (fun o e => if e.2.isNull then o.erase e.1 else o.insert e.1 e.2) o).get? k =
      patchedValue (entries.lookup k) (o.get? k) := by
  induction entries generalizing o with
  | nil => rfl
  | cons e rest ih =>
    obtain ⟨he, hrest⟩ := List.pairwise_cons.1 hs
    rw [List.foldl_cons, ih hrest, lookup_cons_eq]
    by_cases hk : k = e.1
    · -- No later entry has this key.
      subst hk
      rw [lookup_eq_none_of_lt he, if_pos rfl]
      cases hv : e.2.isNull <;> simp [patchedValue, hv]
    · cases hv : e.2.isNull <;> simp [hk]

@[simp] theorem Json.Object.get?_insertSome (o : Object) (key k : String) (value : Option Json) :
    (o.insertSome key value).get? k = if k = key then value <|> o.get? k else o.get? k := by
  cases value with
  | none => simp [insertSome]
  | some v => simp [insertSome, get?_insert]

theorem Json.Object.get?_patch (o p : Object) (k : String) :
    (o.patch p).get? k = patchedValue (p.get? k) (o.get? k) :=
  get?_foldl_patch p.entries p.ascending o k

namespace Node

theorem attribute?_eq_get? (n : Node) (k : String) :
    n.attribute? k = (n.data.object?.getD .empty).get? k := by
  unfold attribute?
  cases n.data with
  | obj entries => exact (Object.get?_ofList entries k).symm
  | _ => rfl

@[simp] theorem merge_id (n : Node) (p : Object) : (n.merge p).id = n.id := rfl

theorem attribute?_merge (n : Node) (p : Object) (k : String) :
    (n.merge p).attribute? k = patchedValue (p.get? k) (n.attribute? k) := by
  rw [n.attribute?_eq_get?, ← Object.get?_patch]
  rfl

/-- Patches without a key in common are merged in either order. -/
theorem merge_comm (n : Node) {p q : Object}
    (apart : ∀ key, p.get? key = none ∨ q.get? key = none) :
    (n.merge p).merge q = (n.merge q).merge p := by
  have data (o : Object) : (o.patch p).patch q = (o.patch q).patch p := by
    apply Object.ext_get?
    intro key
    simp only [Object.get?_patch]
    obtain h | h := apart key
    · rw [h]
      rfl
    · rw [h]
      rfl
  simp only [merge, Object.object?_toJson, Option.getD_some, data]

end Node

namespace Workflow

private theorem find?_mergeInto (id other : NodeId) (p : Object) (nodes : List Node) :
    (mergeInto id p nodes).find? (fun n => n.id == other) =
      (nodes.find? fun n => n.id == other).map fun n => if other = id then n.merge p else n := by
  induction nodes with
  | nil => rfl
  | cons n rest ih =>
    unfold mergeInto
    by_cases hn : n.id = id
    · rw [if_pos hn]
      by_cases ho : n.id = other
      · simp [ho, show other = id from ho.symm.trans hn]
      · have hoi : ¬ other = id := fun h => ho (hn.trans h.symm)
        simp [ho, hoi]
    · rw [if_neg hn]
      by_cases ho : n.id = other
      · have hoi : ¬ other = id := fun h => hn (ho.trans h)
        simp [ho, hoi]
      · simpa [ho] using ih

/-- A patch reaches the node of its id and no other. -/
theorem node?_update (w : Workflow) (id other : NodeId) (p : Object) :
    (w.update id p).node? other =
      (w.node? other).map fun n => if other = id then n.merge p else n :=
  find?_mergeInto id other p w.nodes

private theorem ids_mergeInto (id : NodeId) (p : Object) (nodes : List Node) :
    (mergeInto id p nodes).map Node.id = nodes.map Node.id := by
  induction nodes with
  | nil => rfl
  | cons n rest ih =>
    rw [mergeInto]
    split
    · rfl
    · rw [List.map_cons, ih, List.map_cons]

/-- A patch leaves the ids of nodes alone. -/
theorem ids_update (w : Workflow) (id : NodeId) (p : Object) :
    (w.update id p).nodes.map Node.id = w.nodes.map Node.id :=
  ids_mergeInto id p w.nodes

private theorem mergeInto_of_notMem {id : NodeId} {p : Object} {nodes : List Node}
    (h : id ∉ nodes.map Node.id) : mergeInto id p nodes = nodes := by
  induction nodes with
  | nil => rfl
  | cons n rest ih =>
    rw [List.map_cons, List.mem_cons, not_or] at h
    obtain ⟨hn, hr⟩ := h
    rw [mergeInto, if_neg (Ne.symm hn), ih hr]

private theorem mergeInto_eq_map {id : NodeId} {p : Object} {nodes : List Node}
    (h : (nodes.map Node.id).Nodup) :
    mergeInto id p nodes = nodes.map fun n => if n.id = id then n.merge p else n := by
  induction nodes with
  | nil => rfl
  | cons n rest ih =>
    obtain ⟨hn, hr⟩ := List.nodup_cons.1 h
    rw [mergeInto, List.map_cons, ← ih hr]
    by_cases he : n.id = id
    · rw [if_pos he, if_pos he, mergeInto_of_notMem (he ▸ hn)]
    · rw [if_neg he, if_neg he]

theorem nodes_update {w : Workflow} (h : (w.nodes.map Node.id).Nodup) (id : NodeId) (p : Object) :
    (w.update id p).nodes = w.nodes.map fun n => if n.id = id then n.merge p else n :=
  mergeInto_eq_map h

private theorem mergeInto_related {R : Node → Node → Prop} {id : NodeId} {p : Object}
    (same : ∀ n, R n n) (merged : ∀ n, n.id = id → R n (n.merge p)) (nodes : List Node) :
    List.Forall₂ R nodes (mergeInto id p nodes) := by
  induction nodes with
  | nil => exact .nil
  | cons n rest ih =>
    rw [mergeInto]
    split
    · rename_i own
      exact .cons (merged n own) (List.forall₂_same.2 fun m _ => same m)
    · exact .cons (same n) ih

/-- What relates a node to itself, and a node of the id to the merged one, relates each node to what
a patch makes of it. -/
theorem update_related {R : Node → Node → Prop} {w : Workflow} {id : NodeId} {p : Object}
    (same : ∀ n, R n n) (merged : ∀ n, n.id = id → R n (n.merge p)) :
    List.Forall₂ R w.nodes (w.update id p).nodes :=
  mergeInto_related same merged w.nodes

private theorem mergeInto_comm {id other : NodeId} {p q : Object}
    (apart : id = other → ∀ key, p.get? key = none ∨ q.get? key = none) (nodes : List Node) :
    mergeInto other q (mergeInto id p nodes) = mergeInto id p (mergeInto other q nodes) := by
  induction nodes with
  | nil => rfl
  | cons n rest ih =>
    by_cases hn : n.id = id
    · subst hn
      by_cases ho : n.id = other
      · subst ho
        simp [mergeInto, n.merge_comm (apart rfl)]
      · simp [mergeInto, ho]
    · by_cases ho : n.id = other
      · subst ho
        simp [mergeInto, hn]
      · simp [mergeInto, hn, ho, ih]

/-- Patches commute unless they write one key of one node. -/
theorem update_comm (w : Workflow) {id other : NodeId} {p q : Object}
    (apart : id = other → ∀ key, p.get? key = none ∨ q.get? key = none) :
    (w.update id p).update other q = (w.update other q).update id p :=
  congrArg (fun nodes => { w with nodes }) (mergeInto_comm apart w.nodes)

theorem node?_of_mem {w : Workflow} (unique : (w.nodes.map Node.id).Nodup) {n : Node}
    (h : n ∈ w.nodes) : w.node? n.id = some n := by
  have some : (w.node? n.id).isSome := List.find?_isSome.2 ⟨n, h, by simp⟩
  obtain ⟨m, hm⟩ := Option.isSome_iff_exists.1 some
  have same : m.id = n.id := by simpa using List.find?_some hm
  rw [hm, eq_of_id_eq unique (List.mem_of_find?_eq_some hm) h same]

end Workflow

theorem node?_of_mem_ancestors {w : Workflow} (unique : (w.nodes.map Node.id).Nodup)
    {target : NodeId} {n : Node} (h : n ∈ ancestors w.nodes w.edges target) :
    w.node? n.id = some n :=
  Workflow.node?_of_mem unique (nodeNamed?_mem (nodeNamed?_of_mem_search h))

end ImageGraph
