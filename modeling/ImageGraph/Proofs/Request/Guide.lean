import ImageGraph.Proofs.Graph.Merge
import ImageGraph.Proofs.Request.Reading

/-! Guides written onto nodes. A guide changes one attribute of one node, so a workflow with new
guides is the old one with each node replaced by the node with its guide. -/

namespace ImageGraph

open Json

/-- The attributes that a new guide sets. -/
def guidePatch (url : String) : Object :=
  Object.empty.insert "guideUrl" (.str url)

namespace Node

def withGuide (n : Node) (url : String) : Node :=
  n.merge (guidePatch url)

theorem attribute?_withGuide (n : Node) (url key : String) :
    (n.withGuide url).attribute? key =
      if key = "guideUrl" then some (.str url) else n.attribute? key := by
  rw [withGuide, attribute?_merge, guidePatch, Object.get?_insert, Object.get?_empty]
  split <;> rfl

theorem text?_withGuide (n : Node) {url : String} (h : Text.allBlank url = false) :
    (n.withGuide url).text? "guideUrl" = some url := by
  rw [text?, attribute?_withGuide, if_pos rfl]
  simp [string?, h]

theorem withGuide_agrees {keys : List String} (h : "guideUrl" ∉ keys) (n : Node) (url : String) :
    (n.withGuide url).AgreeOn keys n where
  id := rfl
  kind := rfl
  attribute? key hk := by
    have other : key ≠ "guideUrl" := fun same => h (same ▸ hk)
    rw [attribute?_withGuide, if_neg other]

/-- The node with its guide among the given ones, if it has one there. -/
def guided (guides : List (NodeId × String)) (n : Node) : Node :=
  match guides.lookup n.id with
  | some url => n.withGuide url
  | none => n

theorem guided_agrees {keys : List String} (h : "guideUrl" ∉ keys)
    (guides : List (NodeId × String)) (n : Node) : (n.guided guides).AgreeOn keys n := by
  unfold guided
  split
  · exact withGuide_agrees h n _
  · exact .refl n

theorem guided_cons_self (n : Node) (url : String) (guides : List (NodeId × String)) :
    n.guided ((n.id, url) :: guides) = n.withGuide url := by
  rw [guided, List.lookup_cons_self]

theorem guided_cons_of_ne {n : Node} {id : NodeId} (h : n.id ≠ id) (url : String)
    (guides : List (NodeId × String)) : n.guided ((id, url) :: guides) = n.guided guides := by
  rw [guided, guided, List.lookup_cons, beq_eq_false_iff_ne.2 h]

theorem guided_of_notMem {n : Node} {guides : List (NodeId × String)}
    (h : n.id ∉ guides.map Prod.fst) : n.guided guides = n := by
  induction guides with
  | nil => rfl
  | cons guide rest ih =>
    rw [List.map_cons, List.mem_cons, not_or] at h
    obtain ⟨hn, hr⟩ := h
    rw [guided_cons_of_ne hn, ih hr]

end Node

namespace Workflow

/-- Writes guides onto nodes, one after the other. -/
def withGuides (w : Workflow) (guides : List (NodeId × String)) : Workflow :=
  guides.foldl (fun w guide => w.update guide.1 (guidePatch guide.2)) w

theorem edges_withGuides (w : Workflow) (guides : List (NodeId × String)) :
    (w.withGuides guides).edges = w.edges := by
  induction guides generalizing w with
  | nil => rfl
  | cons guide rest ih => exact ih (w.update guide.1 (guidePatch guide.2))

theorem nodes_withGuides {w : Workflow} (unique : (w.nodes.map Node.id).Nodup)
    {guides : List (NodeId × String)} (once : (guides.map Prod.fst).Nodup) :
    (w.withGuides guides).nodes = w.nodes.map (Node.guided guides) := by
  induction guides generalizing w with
  | nil => exact (List.map_id _).symm
  | cons guide rest ih =>
    obtain ⟨id, url⟩ := guide
    obtain ⟨fresh, once⟩ := List.nodup_cons.1 once
    have nodes := nodes_update unique id (guidePatch url)
    have ids : (w.update id (guidePatch url)).nodes.map Node.id = w.nodes.map Node.id := by
      rw [nodes, List.map_map]
      refine List.map_congr_left fun n _ => ?_
      rw [Function.comp_apply]
      split <;> rfl
    change ((w.update id (guidePatch url)).withGuides rest).nodes = _
    rw [ih (ids ▸ unique) once, nodes, List.map_map]
    refine List.map_congr_left fun n _ => ?_
    rw [Function.comp_apply]
    by_cases hn : n.id = id
    · subst hn
      -- No later guide is for this node.
      rw [if_pos rfl, Node.guided_cons_self, Node.guided_of_notMem (n := n.merge _) fresh]
      rfl
    · rw [if_neg hn, Node.guided_cons_of_ne hn]

end Workflow

end ImageGraph
