import ImageGraph.Proofs.Request.Gathering
import ImageGraph.Proofs.Request.Signature
import ImageGraph.Proofs.Request.Snapshot
import ImageGraph.Proofs.Text.ByteOrder

/-! The adapters of a request. Those in the lists of engines come first, in the order of the search;
those with a node of their own follow in the order of its id, so a graph that is listed in another
order gives the same ones. -/

namespace ImageGraph

open Json

/-- What an engine lists as an adapter: a text that is not blank, or an object whose first text of
three is not. -/
inductive Settings.Describes (settings : Settings) : Json → Lora → Prop where
  | text {id : String} : Text.allBlank id = false →
      Describes settings (.str id) ⟨id, settings.defaultLoraWeight⟩
  | object {entries : List (String × Json)} {id : String} :
      Json.FirstAt string? ["id", "name", "url"] (.obj entries) id → Text.allBlank id = false →
      Describes settings (.obj entries) ⟨id, ((Json.obj entries).firstOf? float?
        ["weight", "scale", "strength"]).getD settings.defaultLoraWeight⟩

/-- What a node of its own says of an adapter: the first of two texts that is not blank. -/
structure Settings.Stands (settings : Settings) (n : Node) (lora : Lora) : Prop where
  id : n.text? "lora" = some lora.id ∨ n.text? "lora" = none ∧ n.text? "model" = some lora.id
  weight : lora.weight =
    (n.number? "weight" <|> n.number? "strength").getD settings.defaultLoraWeight

/-- The entries of the list that a node has under `loras`, if it is one. -/
def Node.loraEntries (n : Node) : List Json :=
  match n.attribute? "loras" with
  | some (.arr items) => items
  | _ => []

/-- The adapters of ancestors: those that engines list, and those with a node of their own. -/
structure Adapts (settings : Settings) (found : List Node) (attached standalone : List Lora) :
    Prop where
  attached : Gathers settings.Describes
    ((found.filter fun n => n.role = .engine).flatMap Node.loraEntries) attached
  standalone : ∃ order : List Node, order.Perm (found.filter fun n => n.role = .lora) ∧
    order.Pairwise (fun a b => Text.bytes a.id < Text.bytes b.id) ∧
    Gathers settings.Stands order standalone

/-- The adapters of a graph, with the list of them that a request for the target has if it
generates. -/
structure AdapterList (settings : Settings) (nodes : List Node) (edges : List Edge)
    (target : NodeId) (attached standalone : List Lora) : Prop where
  adapts : Adapts settings (ancestors nodes edges target) attached standalone
  listed : (lineageOf settings nodes edges target).loras = attached ++ standalone
  compiled : ∀ r, compile settings nodes edges target = .ok r →
    r.main.params.get? "loras" = if r.flow.Generates then
      nonempty? ((attached ++ standalone).map Lora.toJson) else none

section

variable {settings : Settings} {l : Lineage} {found : List Node}

/-! ### Readers of one adapter -/

theorem Lineage.loraOf?_eq_some {j : Json} {lora : Lora} :
    l.loraOf? j = some lora ↔ l.settings.Describes j lora := by
  constructor
  · intro read
    unfold loraOf? at read
    split at read
    · split at read <;> cases read
      rename_i filled
      exact .text (by simpa using filled)
    · obtain ⟨id, named, made⟩ := Option.bind_eq_some_iff.1 read
      cases made
      obtain ⟨first, filled⟩ := Option.filter_eq_some_iff.1 named
      -- Only an object has values under keys.
      cases j with
      | obj entries => exact .object (firstOf?_eq_some.1 first) (by simpa using filled)
      | _ => simp [firstOf?, field?] at first
  · intro described
    cases described with
    | text filled => simp [loraOf?, filled]
    | object first filled => simp [loraOf?, firstOf?_eq_some.2 first, Option.filter, filled]

theorem Lineage.loraNode?_eq_some {n : Node} {lora : Lora} :
    l.loraNode? n = some lora ↔ l.settings.Stands n lora := by
  have named : (n.text? "lora" <|> n.text? "model") = some lora.id ↔
      n.text? "lora" = some lora.id ∨ n.text? "lora" = none ∧ n.text? "model" = some lora.id := by
    cases n.text? "lora" <;> simp
  constructor
  · intro read
    obtain ⟨id, given, made⟩ := Option.bind_eq_some_iff.1 read
    cases made
    exact ⟨named.1 given, rfl⟩
  · rintro ⟨id, weight⟩
    refine Option.bind_eq_some_iff.2 ⟨lora.id, named.2 id, ?_⟩
    cases lora
    cases weight
    rfl

/-! ### The adapters of a lineage -/

theorem ascending_mergeSort {nodes : List Node} (ids : (nodes.map Node.id).Nodup) :
    (nodes.mergeSort fun a b => a.id ≤ b.id).Pairwise
      fun a b => Text.bytes a.id < Text.bytes b.id := by
  have sorted : (nodes.mergeSort fun a b => a.id ≤ b.id).Pairwise
      fun a b => decide (a.id ≤ b.id) = true := by
    refine List.pairwise_mergeSort (fun a b c hab hbc => ?_) (fun a b => ?_) nodes
    · simp only [decide_eq_true_iff] at hab hbc ⊢
      exact String.le_trans hab hbc
    · simpa using String.le_total a.id b.id
  have apart : (nodes.mergeSort fun a b => a.id ≤ b.id).Pairwise fun a b => a.id ≠ b.id :=
    List.pairwise_map.1 (((List.mergeSort_perm _ _).map Node.id).nodup_iff.2 ids)
  refine (sorted.and apart).imp fun {a b} both => (Text.bytes_lt_iff _ _).2 ?_
  by_contra other
  exact both.2 (String.le_antisymm (by simpa using both.1) (String.not_lt.1 other))

theorem Lineage.loras_eq (hl : l.ancestors = found.map Node.classify) :
    l.loras =
      ((found.filter fun n => n.role = .engine).flatMap Node.loraEntries).filterMap l.loraOf? ++
        ((found.filter fun n => n.role = .lora).mergeSort fun a b => a.id ≤ b.id).filterMap
          l.loraNode? := by
  have entries (n : Node) :
      ((n.classify.node.attribute? "loras").bind array?).getD [] = n.loraEntries := by
    rw [Node.loraEntries, Node.classify]
    cases n.attribute? "loras" with
    | none => rfl
    | some j => cases j <;> rfl
  have sorted (nodes : List Node) :
      (nodes.map Node.classify).mergeSort (fun a b => a.node.id ≤ b.node.id) =
        (nodes.mergeSort fun a b => a.id ≤ b.id).map Node.classify := by
    have order : ∀ a ∈ nodes, ∀ b ∈ nodes, decide (a.id ≤ b.id) =
        decide (a.classify.node.id ≤ b.classify.node.id) := fun _ _ _ _ => rfl
    rw [← List.map_mergeSort order]
  rw [loras, l.withRole_eq hl, l.withRole_eq hl, sorted, List.filterMap_flatMap, List.flatMap_map,
    List.filterMap_map]
  simp only [entries]
  rfl

theorem Lineage.exists_adapts (hl : l.ancestors = found.map Node.classify)
    (ids : (found.map Node.id).Nodup) :
    ∃ attached standalone, Adapts l.settings found attached standalone ∧
      l.loras = attached ++ standalone := by
  let order := (found.filter fun n => n.role = .lora).mergeSort fun a b => a.id ≤ b.id
  have ascending : order.Pairwise fun a b => Text.bytes a.id < Text.bytes b.id :=
    ascending_mergeSort ((List.filter_sublist.map Node.id).nodup ids)
  refine ⟨_, _, ⟨?_, order, List.mergeSort_perm _ _, ascending, ?_⟩, loras_eq hl⟩
  · exact (gathers_iff (f := l.loraOf?) fun _ _ _ => loraOf?_eq_some.symm).2 rfl
  · exact (gathers_iff (f := l.loraNode?) fun _ _ _ => loraNode?_eq_some.symm).2 rfl

/-! ### One list for every order of a graph -/

theorem Settings.Describes.unique {j : Json} {a b : Lora} (h : settings.Describes j a)
    (h' : settings.Describes j b) : a = b := by
  have read (lora : Lora) :
      (⟨"", [], settings⟩ : Lineage).loraOf? j = some lora ↔ settings.Describes j lora :=
    Lineage.loraOf?_eq_some
  exact Option.some.inj (((read a).2 h).symm.trans ((read b).2 h'))

theorem Settings.Stands.unique {n : Node} {a b : Lora} (h : settings.Stands n a)
    (h' : settings.Stands n b) : a = b := by
  have read (lora : Lora) :
      (⟨"", [], settings⟩ : Lineage).loraNode? n = some lora ↔ settings.Stands n lora :=
    Lineage.loraNode?_eq_some
  exact Option.some.inj (((read a).2 h).symm.trans ((read b).2 h'))

/-- What at most one node has is picked in the same way from any order of the nodes. -/
theorem filter_perm_of_one {found' : List Node} {P : Node → Prop} [DecidablePred P]
    (ids : (found.map Node.id).Nodup) (h : found.Perm found') (one : AtMostOne P found) :
    found'.filter P = found.filter P := by
  have same := h.filter P
  cases picked : found.filter P with
  | nil =>
    rw [picked] at same
    exact same.nil_eq.symm
  | cons a rest =>
    cases rest with
    | nil =>
      rw [picked] at same
      exact List.perm_singleton.1 same.symm
    | cons b rest =>
      have twice : ((found.filter P).map Node.id).Nodup :=
        (List.filter_sublist.map Node.id).nodup ids
      have ha := List.mem_filter.1 (picked ▸ List.mem_cons_self : a ∈ found.filter P)
      have hb := List.mem_filter.1 (picked ▸ by simp : b ∈ found.filter P)
      rw [picked] at twice
      have equal := one a ha.1 b hb.1 (by simpa using ha.2) (by simpa using hb.2)
      simp [equal] at twice

namespace Adapts

variable {found' : List Node} {attached attached' standalone standalone' : List Lora}

/-- Ids order nodes in one way. -/
theorem standalone_eq (h : Adapts settings found attached standalone)
    (h' : Adapts settings found' attached' standalone') (same : found.Perm found') :
    standalone' = standalone := by
  obtain ⟨order, picked, ascending, given⟩ := h.standalone
  obtain ⟨order', picked', ascending', given'⟩ := h'.standalone
  have reordered : order'.Perm order := picked'.trans ((same.filter _).symm.trans picked.symm)
  obtain rfl := reordered.eq_of_pairwise
    (fun _ _ _ _ lower higher => absurd higher (List.lt_asymm lower)) ascending' ascending
  exact given'.unique given Settings.Stands.unique

theorem attached_eq (h : Adapts settings found attached standalone)
    (h' : Adapts settings found' attached' standalone') (ids : (found.map Node.id).Nodup)
    (same : found.Perm found') (one : AtMostOne (fun n => n.role = .engine) found) :
    attached' = attached := by
  have given' := h'.attached
  rw [filter_perm_of_one ids same one] at given'
  exact given'.unique h.attached Settings.Describes.unique

end Adapts

theorem exists_adapterList (settings : Settings) (nodes : List Node) (edges : List Edge)
    (target : NodeId) :
    ∃ attached standalone, AdapterList settings nodes edges target attached standalone := by
  obtain ⟨attached, standalone, adapts, listed⟩ := Lineage.exists_adapts
    (rfl : (lineageOf settings nodes edges target).ancestors = _)
    (nodup_search nodes edges [] [target])
  refine ⟨attached, standalone, adapts, listed, fun r ok => ?_⟩
  rw [← listed, Lineage.request_generative (compile_eq_ok.1 ok).2 (by simp)]
  simp [Lineage.generativeParams]

/-- The adapters of a request are those that its engines list, followed by those with a node of
their own in the byte order of ids. With one node to an id the latter are the same however nodes and
edges are listed, and with one engine at most all of them are. -/
theorem compile_adapters (settings : Settings) (nodes : List Node) (edges : List Edge)
    (target : NodeId) :
    ∃ attached standalone, AdapterList settings nodes edges target attached standalone ∧
      ((nodes.map Node.id).Nodup → ∀ nodes' edges', nodes.Perm nodes' → edges.Perm edges' →
        ∃ attached', AdapterList settings nodes' edges' target attached' standalone ∧
          (AtMostOne (fun n => n.role = .engine) (ancestors nodes edges target) →
            attached' = attached)) := by
  obtain ⟨attached, standalone, h⟩ := exists_adapterList settings nodes edges target
  refine ⟨attached, standalone, h, fun unique nodes' edges' hn he => ?_⟩
  obtain ⟨attached', standalone', h'⟩ := exists_adapterList settings nodes' edges' target
  have same := ancestors_perm unique hn he target
  obtain rfl := h.adapts.standalone_eq h'.adapts same
  exact ⟨attached', h',
    h.adapts.attached_eq h'.adapts (nodup_search nodes edges [] [target]) same⟩

/-- An engine with a list of three entries, one of them blank, and two nodes of adapters that are
not drawn in the order of their ids. -/
theorem compile_adapters_reversed :
    let nodes : List Node := [⟨"out", "output", .null⟩,
      ⟨"engine", "engine", .obj [("loras",
        .arr [.str "x", .str " ", .obj [("name", .str "y"), ("url", .str "z")]])]⟩,
      ⟨"b", "lora", .obj [("model", .str "1")]⟩,
      ⟨"a", "lora", .obj [("lora", .str "2"), ("model", .str "3")]⟩]
    let edges : List Edge := nodes.map fun n => ⟨n.id, n.id, "out"⟩
    ((nodes.map Node.id).Nodup ∧
      AtMostOne (fun n => n.role = .engine) (ancestors nodes edges "out")) ∧
    ∃ attached standalone, AdapterList {} nodes edges "out" attached standalone ∧
      AdapterList {} nodes.reverse edges.reverse "out" attached standalone ∧
      attached.map Lora.id = ["x", "y"] ∧
      ∃ r, compile {} nodes edges "out" = .ok r ∧
        (r.main.params.get? "loras").bind (listOf? Lora.ofJson?) =
          some (attached ++ standalone) := by
  intro nodes edges
  have unique : (nodes.map Node.id).Nodup := by decide +kernel
  have one : AtMostOne (fun n => n.role = .engine) (ancestors nodes edges "out") := by
    decide +kernel
  have ids : ((((ancestors nodes edges "out").filter fun n => n.role = .engine).flatMap
      Node.loraEntries).filterMap (lineageOf {} nodes edges "out").loraOf?).map Lora.id =
        ["x", "y"] := by
    decide +kernel
  obtain ⟨attached, standalone, list, reordered⟩ := compile_adapters {} nodes edges "out"
  obtain ⟨attached', list', same⟩ := reordered unique _ _ nodes.reverse_perm.symm
    edges.reverse_perm.symm
  obtain rfl := same one
  have read := (gathers_iff (f := (lineageOf {} nodes edges "out").loraOf?)
    fun _ _ _ => Lineage.loraOf?_eq_some.symm).1 list.adapts.attached
  have own : attached'.map Lora.id = ["x", "y"] := by rw [read, ids]
  have filled : attached' ++ standalone ≠ [] := by
    cases attached' with
    | nil => cases own
    | cons => exact List.cons_ne_nil _ _
  have finite : (attached' ++ standalone).all fun l => l.weight.isFinite := by
    have lineage : (lineageOf {} nodes edges "out").Finite := by
      refine ⟨settings_finite, ?_, ?_⟩ <;> decide +kernel
    rw [← list.listed]
    exact List.all_eq_true.2 lineage.loras
  have compiles : (compile {} nodes edges "out").toOption.any fun r => r.flow.Generates := by
    decide +kernel
  refine ⟨⟨unique, one⟩, attached', standalone, list, list', own, ?_⟩
  cases ok : compile {} nodes edges "out" with
  | error e => rw [ok] at compiles; cases compiles
  | ok r =>
    rw [ok] at compiles
    have generates : r.flow.Generates := by simpa [Except.toOption] using compiles
    refine ⟨r, rfl, ?_⟩
    rw [list.compiled r ok, if_pos generates, listOf?_nonempty Lora.ofJson?_toJson,
      if_pos ⟨filled, finite⟩]

end

end ImageGraph
