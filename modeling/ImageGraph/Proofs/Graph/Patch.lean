import ImageGraph.Proofs.Graph.Merge

/-! The algebra of patches. Two patches in turn make up a single one, in which the later patch
counts wherever it has a key. A node, and so a workflow, comes to the same by the single patch as by
the two, and what holds among patches therefore holds of whatever they are made to. -/

namespace ImageGraph

open Json

/-- The patch that two make up: under each key of the later one its value, null included. -/
def Json.Object.followedBy (p q : Object) : Object :=
  q.entries.foldr (fun e o => o.insert e.1 e.2) p

namespace Json.Object

private theorem get?_foldr_insert (entries : List (String × Json)) (p : Object) (key : String) :
    (entries.foldr (fun e o => o.insert e.1 e.2) p).get? key =
      (entries.lookup key).or (p.get? key) := by
  induction entries with
  | nil => rfl
  | cons e rest ih =>
    rw [List.foldr_cons, get?_insert, ih, lookup_cons_eq]
    split <;> rfl

@[simp] theorem get?_followedBy (p q : Object) (key : String) :
    (p.followedBy q).get? key = (q.get? key).or (p.get? key) :=
  get?_foldr_insert q.entries p key

theorem followedBy_self (p : Object) : p.followedBy p = p :=
  ext_get? fun key => by rw [get?_followedBy, Option.or_self]

end Json.Object

theorem patchedValue_or (later earlier old : Option Json) :
    patchedValue (later.or earlier) old = patchedValue later (patchedValue earlier old) := by
  cases later <;> rfl

theorem Json.Object.patch_patch (o p q : Object) :
    (o.patch p).patch q = o.patch (p.followedBy q) := by
  apply ext_get?
  intro key
  rw [get?_patch, get?_patch, get?_patch, get?_followedBy, patchedValue_or]

theorem Node.merge_merge (n : Node) (p q : Object) :
    (n.merge p).merge q = n.merge (p.followedBy q) := by
  simp only [merge, Object.object?_toJson, Option.getD_some, Object.patch_patch]

/-! ### Patches of a workflow -/

namespace Workflow

private theorem mergeInto_mergeInto (id : NodeId) (p q : Object) (nodes : List Node) :
    mergeInto id q (mergeInto id p nodes) = mergeInto id (p.followedBy q) nodes := by
  induction nodes with
  | nil => rfl
  | cons n rest ih =>
    by_cases own : n.id = id
    · simp only [mergeInto, own, if_true, Node.merge_id, Node.merge_merge]
    · simp only [mergeInto, own, if_false, ih]

theorem update_update (w : Workflow) (id : NodeId) (p q : Object) :
    (w.update id p).update id q = w.update id (p.followedBy q) :=
  congrArg (fun nodes => { w with nodes }) (mergeInto_mergeInto id p q w.nodes)

/-- However many patches a node is given in turn, it is left as by a single one. -/
theorem foldl_update (w : Workflow) (id : NodeId) (p : Object) (later : List Object) :
    later.foldl (fun w q => w.update id q) (w.update id p) =
      w.update id (later.foldl Object.followedBy p) := by
  induction later generalizing p with
  | nil => rfl
  | cons q later ih => rw [List.foldl_cons, update_update, ih, List.foldl_cons]

end Workflow

/-! ### The laws -/

/-- The laws of patches, whatever the data of the node is. Two in turn come to the one that has the
later value, null included, where the later patch has the key, and the earlier value elsewhere. A
patch made again changes nothing, and patches without a key in common may be made in either order.
What a patch leaves is an object, in which its keys have their values, or are missing where that is
null, and which has every other key as before. -/
theorem patch_laws (n : Node) (p q : Object) :
    (∀ key, (p.followedBy q).get? key = (q.get? key).or (p.get? key)) ∧
    (n.merge p).merge q = n.merge (p.followedBy q) ∧
    (n.merge p).merge p = n.merge p ∧
    ((∀ key, p.get? key = none ∨ q.get? key = none) →
      (n.merge p).merge q = (n.merge q).merge p) ∧
    (∃ o : Object, (n.merge p).data = o.toJson) ∧
    (∀ key v, p.get? key = some v → v ≠ .null → (n.merge p).attribute? key = some v) ∧
    (∀ key, p.get? key = some .null → (n.merge p).attribute? key = none) ∧
    ∀ key, p.get? key = none → (n.merge p).attribute? key = n.attribute? key := by
  refine ⟨p.get?_followedBy q, n.merge_merge p q, ?_, n.merge_comm, ⟨_, rfl⟩,
    fun key v given filled => ?_, fun key given => ?_, fun key apart => ?_⟩
  · rw [n.merge_merge, Object.followedBy_self]
  · rw [n.attribute?_merge, given]
    cases v with
    | null => exact absurd rfl filled
    | _ => rfl
  · rw [n.attribute?_merge, given]
    rfl
  · rw [n.attribute?_merge, apart]
    rfl

/-- Two patches of a node whose data is no object. Each removes a key that was not there. -/
theorem patch_laws_apart :
    let n : Node := ⟨"out", "output", .str "x"⟩
    let p : Object := .ofList [("error", .null), ("imageId", .str "1")]
    let q : Object := .ofList [("seed", .num (.int 7)), ("guideUrl", .null)]
    ((∀ key, p.get? key = none ∨ q.get? key = none) ∧ p.get? "imageId" = some (.str "1") ∧
      p.get? "error" = some .null ∧ p.get? "seed" = none) ∧
    (n.merge p).merge q = (n.merge q).merge p ∧
    (n.merge p).attribute? "imageId" = some (.str "1") ∧ (n.merge p).attribute? "error" = none ∧
    (n.merge p).attribute? "seed" = n.attribute? "seed" := by
  intro n p q
  have apart : ∀ key, p.get? key = none ∨ q.get? key = none := by
    intro key
    simp only [p, q, Object.get?_ofList, lookup_cons_eq, List.lookup_nil]
    by_cases error : key = "error"
    · exact .inr (by simp [error])
    · by_cases image : key = "imageId"
      · exact .inr (by simp [image])
      · exact .inl (by rw [if_neg error, if_neg image])
  have given : p.get? "imageId" = some (.str "1") := rfl
  have removed : p.get? "error" = some .null := rfl
  have absent : p.get? "seed" = none := rfl
  obtain ⟨-, -, -, commute, -, sets, removes, keeps⟩ := patch_laws n p q
  exact ⟨⟨apart, given, removed, absent⟩, commute apart, sets _ _ given Json.noConfusion,
    removes _ removed, keeps _ absent⟩

end ImageGraph
