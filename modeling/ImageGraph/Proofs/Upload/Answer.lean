import ImageGraph.Proofs.Graph.Attribute
import ImageGraph.Proofs.Graph.Merge
import ImageGraph.Upload

/-! What answers to uploads leave in a workflow. Every upload has a place of its own, a slot of a
node, and writes there and nowhere else. So the order of the answers does not matter. -/

namespace ImageGraph

open Json

namespace ImageSlot

/-- The attributes of a slot. -/
def keys (s : ImageSlot) : List String :=
  [s.dataKey, s.idKey, s.urlKey]

theorem idKey_ne_urlKey : ∀ s ∈ all, s.idKey ≠ s.urlKey := by
  decide

/-- No slot writes where another has its data, and only one writes an attribute. -/
theorem written_apart : ∀ s ∈ all, ∀ t ∈ all, ∀ key ∈ s.keys,
    key = t.idKey ∨ key = t.urlKey → s = t ∧ key ≠ s.dataKey := by
  decide

end ImageSlot

/-- Where the reference of an upload is written. -/
def PendingUpload.place (p : PendingUpload) : NodeId × ImageSlot :=
  (p.nodeId, p.slot)

/-! ### The uploads that nodes wait for -/

theorem Node.pending?_eq_some {n : Node} {slot : ImageSlot} {p : PendingUpload}
    (h : n.pending? slot = some p) : p.nodeId = n.id ∧ p.slot = slot := by
  unfold pending? at h
  split at h
  · cases h
  · obtain ⟨data, -, rfl⟩ := Option.map_eq_some_iff.1 h
    exact ⟨rfl, rfl⟩

theorem Node.unidentified_of_pending? {n : Node} {slot : ImageSlot} {p : PendingUpload}
    (h : n.pending? slot = some p) : n.text? slot.idKey = none := by
  unfold pending? at h
  split at h
  · cases h
  · assumption

theorem Node.text?_of_pending? {n : Node} {slot : ImageSlot} {p : PendingUpload}
    (h : n.pending? slot = some p) : n.text? slot.dataKey = some p.data := by
  unfold pending? at h
  split at h
  · cases h
  · obtain ⟨data, found, rfl⟩ := Option.map_eq_some_iff.1 h
    exact found

/-- A blank identifier is none, so that the slot waits for its upload still. -/
theorem Node.pending?_of_identifier {n : Node} {p : PendingUpload} {identifier : String}
    (node : n.id = p.nodeId) (id : n.attribute? p.slot.idKey = some (.str identifier))
    (data : n.text? p.slot.dataKey = some p.data) :
    n.pending? p.slot = if Text.allBlank identifier then some p else none := by
  rw [pending?, text?_of_attribute? id, data, node]
  cases Text.allBlank identifier <;> rfl

variable {nodes : List Node} {p q : PendingUpload}

theorem pendingUploads_cons (n : Node) (rest : List Node) :
    pendingUploads (n :: rest) = ImageSlot.all.filterMap n.pending? ++ pendingUploads rest :=
  List.flatMap_cons

theorem mem_pendingUploads :
    p ∈ pendingUploads nodes ↔
      ∃ n ∈ nodes, p.slot ∈ ImageSlot.all ∧ n.pending? p.slot = some p := by
  simp only [pendingUploads, List.mem_flatMap, List.mem_filterMap]
  refine exists_congr fun n => and_congr_right fun _ => ?_
  constructor
  · rintro ⟨slot, hs, h⟩
    obtain rfl := (Node.pending?_eq_some h).2
    exact ⟨hs, h⟩
  · rintro ⟨hs, h⟩
    exact ⟨p.slot, hs, h⟩

theorem slot_of_mem_pendingUploads (h : p ∈ pendingUploads nodes) : p.slot ∈ ImageSlot.all := by
  obtain ⟨n, -, hs, -⟩ := mem_pendingUploads.1 h
  exact hs

/-- A slot of a node gives rise to one upload at most. -/
theorem places_pendingUploads_nodup (distinct : (nodes.map Node.id).Nodup) :
    ((pendingUploads nodes).map PendingUpload.place).Nodup := by
  have slots : ImageSlot.all.Nodup := by decide
  rw [List.Nodup, List.pairwise_map] at distinct ⊢
  rw [pendingUploads, List.pairwise_flatMap]
  constructor
  · intro n _
    refine List.pairwise_filterMap.2 (slots.imp fun {s t} other p hp q hq same => other ?_)
    rw [← (Node.pending?_eq_some hp).2, ← (Node.pending?_eq_some hq).2]
    exact congrArg Prod.snd same
  · refine distinct.imp fun {n m} other p hp q hq same => other ?_
    obtain ⟨s, -, hp⟩ := List.mem_filterMap.1 hp
    obtain ⟨t, -, hq⟩ := List.mem_filterMap.1 hq
    rw [← (Node.pending?_eq_some hp).1, ← (Node.pending?_eq_some hq).1]
    exact congrArg Prod.fst same

theorem eq_of_place_eq {uploads : List PendingUpload}
    (places : (uploads.map PendingUpload.place).Nodup) (hp : p ∈ uploads) (hq : q ∈ uploads)
    (same : p.place = q.place) : p = q :=
  List.inj_on_of_nodup_map places hp hq same

/-! ### Answers -/

/-- What comes of each upload. -/
abbrev Answers := PendingUpload → Except ServiceError UploadedImage

/-- What an upload that succeeds writes to its node. -/
def PendingUpload.patch (p : PendingUpload) (u : UploadedImage) : Object :=
  Object.empty.insert p.slot.idKey (.str u.id) |>.insert p.slot.urlKey (.str u.url)

theorem PendingUpload.get?_patch (p : PendingUpload) (u : UploadedImage) (key : String) :
    (p.patch u).get? key =
      if key = p.slot.urlKey then some (.str u.url)
      else if key = p.slot.idKey then some (.str u.id) else none := by
  simp only [patch, Object.get?_insert, Object.get?_empty]

theorem PendingUpload.get?_patch_eq_none {u : UploadedImage} {key : String}
    (h : ¬ (key = p.slot.idKey ∨ key = p.slot.urlKey)) : (p.patch u).get? key = none := by
  rw [not_or] at h
  rw [get?_patch, if_neg h.2, if_neg h.1]

/-- Nothing is left of what stood where a reference is written. -/
theorem PendingUpload.patchedValue_patch {u : UploadedImage} {key : String} {old : Option Json}
    (hk : key = p.slot.idKey ∨ key = p.slot.urlKey) :
    patchedValue ((p.patch u).get? key) old = (p.patch u).get? key := by
  rw [get?_patch]
  rcases hk with rfl | rfl
  · split <;> simp [patchedValue, isNull]
  · simp [patchedValue, isNull]

namespace Workflow

/-- The workflow after the answer to an upload. One that failed leaves it as it is. -/
def answered (answers : Answers) (w : Workflow) (p : PendingUpload) : Workflow :=
  match answers p with
  | .ok u => w.settle p u
  | .error _ => w

/-- An attribute of a node, if there is such a node. -/
def attribute? (w : Workflow) (id : NodeId) (key : String) : Option Json :=
  (w.node? id).bind fun n => n.attribute? key

variable {w : Workflow} {answers : Answers} {id : NodeId} {key : String} {u : UploadedImage}
  {uploads : List PendingUpload}

theorem answered_comm (w : Workflow) (hp : p.slot ∈ ImageSlot.all) (hq : q.slot ∈ ImageSlot.all)
    (apart : p.place ≠ q.place) :
    answered answers (answered answers w p) q = answered answers (answered answers w q) p := by
  unfold answered
  cases answers p with
  | error => rfl
  | ok u =>
    cases answers q with
    | error => rfl
    | ok v =>
      refine update_comm w fun same key => ?_
      by_cases written : key = q.slot.idKey ∨ key = q.slot.urlKey
      · refine .inl (PendingUpload.get?_patch_eq_none fun own => apart (Prod.ext same ?_))
        have mem : key ∈ p.slot.keys := by
          rcases own with rfl | rfl <;> simp [ImageSlot.keys]
        exact (ImageSlot.written_apart _ hp _ hq key mem written).1
      · exact .inr (PendingUpload.get?_patch_eq_none written)

theorem node?_settle (w : Workflow) (p : PendingUpload) (u : UploadedImage) (id : NodeId) :
    (w.settle p u).node? id =
      (w.node? id).map fun n => if id = p.nodeId then n.merge (p.patch u) else n :=
  node?_update w p.nodeId id (p.patch u)

/-- An upload writes an attribute. -/
structure Writes (answers : Answers) (id : NodeId) (key : String) (p : PendingUpload) : Prop where
  node : p.nodeId = id
  key : key = p.slot.idKey ∨ key = p.slot.urlKey
  succeeded : ∃ u, answers p = .ok u

theorem attribute?_answered (h : ¬ Writes answers id key p) :
    (answered answers w p).attribute? id key = w.attribute? id key := by
  unfold answered
  cases ha : answers p with
  | error e => rfl
  | ok u =>
    simp only [attribute?, node?_settle, Option.bind_map]
    congr 1
    funext n
    simp only [Function.comp_apply]
    split
    · rename_i same
      have none : (p.patch u).get? key = none :=
        PendingUpload.get?_patch_eq_none fun own => h ⟨same.symm, own, u, ha⟩
      rw [Node.attribute?_merge, none]
      rfl
    · rfl

theorem attribute?_settle {n : Node} (h : w.node? p.nodeId = some n) :
    (w.settle p u).attribute? p.nodeId key =
      patchedValue ((p.patch u).get? key) (n.attribute? key) := by
  simp only [attribute?, node?_settle, h, Option.map_some, if_true, Option.bind_some,
    Node.attribute?_merge]

theorem isSome_node?_answered (w : Workflow) (p : PendingUpload) (id : NodeId) :
    ((answered answers w p).node? id).isSome = (w.node? id).isSome := by
  unfold answered
  split
  · rw [node?_settle, Option.isSome_map]
  · rfl

/-! ### All answers -/

/-- The workflow after the answers to uploads, in the order of the list. -/
def answeredAll (answers : Answers) (w : Workflow) (uploads : List PendingUpload) : Workflow :=
  uploads.foldl (answered answers) w

theorem answeredAll_append (w : Workflow) (before after : List PendingUpload) :
    w.answeredAll answers (before ++ after) =
      (w.answeredAll answers before).answeredAll answers after :=
  List.foldl_append

theorem answeredAll_perm {order : List PendingUpload} (h : order.Perm uploads)
    (slots : ∀ p ∈ uploads, p.slot ∈ ImageSlot.all)
    (places : (uploads.map PendingUpload.place).Nodup) (w : Workflow) :
    w.answeredAll answers order = w.answeredAll answers uploads := by
  refine h.foldl_eq' (fun p hp q hq z => ?_) w
  have hp := h.mem_iff.1 hp
  have hq := h.mem_iff.1 hq
  by_cases same : p = q
  · rw [same]
  · exact answered_comm z (slots p hp) (slots q hq) fun h => same (eq_of_place_eq places hp hq h)

theorem attribute?_answeredAll (w : Workflow) (h : ∀ p ∈ uploads, ¬ Writes answers id key p) :
    (w.answeredAll answers uploads).attribute? id key = w.attribute? id key := by
  induction uploads generalizing w with
  | nil => rfl
  | cons p rest ih =>
    obtain ⟨hp, hr⟩ := List.forall_mem_cons.1 h
    exact (ih (answered answers w p) hr).trans (attribute?_answered hp)

theorem isSome_node?_answeredAll (w : Workflow) (uploads : List PendingUpload) (id : NodeId) :
    ((w.answeredAll answers uploads).node? id).isSome = (w.node? id).isSome := by
  induction uploads generalizing w with
  | nil => rfl
  | cons p rest ih =>
    exact (ih (answered answers w p)).trans (isSome_node?_answered w p id)

/-- What an upload writes stays if no other one writes there. -/
theorem attribute?_of_sole_writer (known : (w.node? p.nodeId).isSome) (hp : p ∈ uploads)
    (succeeded : answers p = .ok u) (hk : key = p.slot.idKey ∨ key = p.slot.urlKey)
    (sole : ∀ q ∈ uploads, Writes answers p.nodeId key q → q = p) :
    (w.answeredAll answers uploads).attribute? p.nodeId key = (p.patch u).get? key := by
  induction uploads generalizing w with
  | nil => cases hp
  | cons q rest ih =>
    obtain ⟨-, later⟩ := List.forall_mem_cons.1 sole
    by_cases again : p ∈ rest
    · exact ih (by rwa [isSome_node?_answered]) again later
    · obtain rfl : p = q := (List.mem_cons.1 hp).resolve_right again
      have silent : ∀ q ∈ rest, ¬ Writes answers p.nodeId key q :=
        fun q hq writes => again (later q hq writes ▸ hq)
      obtain ⟨n, hn⟩ := Option.isSome_iff_exists.1 known
      rw [answeredAll, List.foldl_cons, ← answeredAll, attribute?_answeredAll _ silent, answered,
        succeeded, attribute?_settle hn, PendingUpload.patchedValue_patch hk]

section

variable (slots : ∀ p ∈ uploads, p.slot ∈ ImageSlot.all)
  (places : (uploads.map PendingUpload.place).Nodup) (hp : p ∈ uploads)
include slots places hp

/-- Two uploads write no attribute of one slot. -/
theorem eq_of_writes (hk : key ∈ p.slot.keys) (hq : q ∈ uploads)
    (h : Writes answers p.nodeId key q) : q = p := by
  have same := (ImageSlot.written_apart _ (slots p hp) _ (slots q hq) key hk h.key).1
  exact eq_of_place_eq places hq hp (Prod.ext h.node same.symm)

/-- An upload that failed leaves its slot as it was, whatever the others do. -/
theorem attribute?_of_failed {e : ServiceError} (failed : answers p = .error e)
    (hk : key ∈ p.slot.keys) :
    (w.answeredAll answers uploads).attribute? p.nodeId key = w.attribute? p.nodeId key := by
  refine attribute?_answeredAll w fun q hq h => ?_
  obtain rfl := eq_of_writes slots places hp hk hq h
  obtain ⟨u, succeeded⟩ := h.succeeded
  cases failed.symm.trans succeeded

/-- The reference of an upload that succeeded stays, whatever the others do. -/
theorem attribute?_of_succeeded (known : (w.node? p.nodeId).isSome) (succeeded : answers p = .ok u)
    (hk : key = p.slot.idKey ∨ key = p.slot.urlKey) :
    (w.answeredAll answers uploads).attribute? p.nodeId key = (p.patch u).get? key := by
  have mem : key ∈ p.slot.keys := by
    rcases hk with rfl | rfl <;> simp [ImageSlot.keys]
  exact attribute?_of_sole_writer known hp succeeded hk
    fun q hq writes => eq_of_writes slots places hp mem hq writes

end

/-! ### What is still to be uploaded -/

theorem attribute?_of_node? {n : Node} (h : w.node? id = some n) (key : String) :
    w.attribute? id key = n.attribute? key := by
  rw [attribute?, h, Option.bind_some]

theorem node?_id {n : Node} (h : w.node? id = some n) : n.id = id := by
  simpa using List.find?_some h

section

variable {n n' : Node} {slot : ImageSlot} (hs : slot ∈ ImageSlot.all)
  (slots : ∀ p ∈ uploads, p.slot ∈ ImageSlot.all) (hn : w.node? n.id = some n)
  (hn' : (w.answeredAll answers uploads).node? n.id = some n')
include hn hn'

theorem text?_of_unwritten (unwritten : ∀ q ∈ uploads, ¬ Writes answers n.id key q) :
    n'.text? key = n.text? key := by
  rw [Node.text?, Node.text?, ← attribute?_of_node? hn', attribute?_answeredAll w unwritten,
    attribute?_of_node? hn]

include hs slots

/-- Nobody writes the data of a slot. -/
theorem text?_dataKey : n'.text? slot.dataKey = n.text? slot.dataKey := by
  refine text?_of_unwritten hn hn' fun q hq h => ?_
  exact (ImageSlot.written_apart _ hs _ (slots q hq) _ (by simp [ImageSlot.keys]) h.key).2 rfl

/-- As long as nobody writes its identifier, a slot waits as it did before. -/
theorem pending?_of_unwritten (unwritten : ∀ q ∈ uploads, ¬ Writes answers n.id slot.idKey q) :
    n'.pending? slot = n.pending? slot := by
  rw [Node.pending?, Node.pending?, text?_of_unwritten hn hn' unwritten,
    text?_dataKey hs slots hn hn', node?_id hn']

end

/-- The nodes of a list as they are in a workflow by now. -/
def refreshed (w : Workflow) (nodes : List Node) : List Node :=
  nodes.filterMap fun n => w.node? n.id

theorem refreshed_cons {n n' : Node} (h : w.node? n.id = some n') (rest : List Node) :
    w.refreshed (n :: rest) = n' :: w.refreshed rest :=
  List.filterMap_cons_some h

/-- An upload has to be made again: it failed, or the identifier that it brought is blank. -/
def remains (answers : Answers) (p : PendingUpload) : Bool :=
  match answers p with
  | .ok u => Text.allBlank u.id
  | .error _ => true

section

variable {n n' : Node} {slot : ImageSlot} (hn : n ∈ nodes) (hs : slot ∈ ImageSlot.all)
  (sole : ∀ m ∈ nodes, m.id = n.id → m = n)
include hs sole

/-- What writes to a slot of a node is the upload that this slot waits for. -/
theorem pending?_of_writes (hk : key ∈ slot.keys) (hq : q ∈ pendingUploads nodes)
    (h : Writes answers n.id key q) : n.pending? slot = some q := by
  obtain ⟨m, hm, hs', hq⟩ := mem_pendingUploads.1 hq
  rw [← sole m hm ((Node.pending?_eq_some hq).1.symm.trans h.node),
    (ImageSlot.written_apart _ hs _ hs' _ hk h.key).1]
  exact hq

variable (made : ∀ q, q ∈ uploads ↔ q ∈ pendingUploads nodes) (there : w.node? n.id = some n)
  (there' : (w.answeredAll answers uploads).node? n.id = some n')
include hn made there there'

/-- A slot has the reference that came for it. -/
theorem attribute?_of_pending? (hp : n.pending? slot = some p) (succeeded : answers p = .ok u)
    (hk : key = slot.idKey ∨ key = slot.urlKey) :
    n'.attribute? key = (p.patch u).get? key := by
  obtain ⟨node, rfl⟩ := Node.pending?_eq_some hp
  have mem : key ∈ p.slot.keys := by
    rcases hk with rfl | rfl <;> simp [ImageSlot.keys]
  have written := attribute?_of_sole_writer (w := w) (by rw [node, there]; rfl)
    ((made p).2 (mem_pendingUploads.2 ⟨n, hn, hs, hp⟩)) succeeded hk fun q hq writes =>
      have own := pending?_of_writes hs sole mem ((made q).1 hq) (node ▸ writes)
      Option.some.inj (own.symm.trans hp)
  rwa [node, attribute?_of_node? there'] at written

/-- A slot waits afterwards for the upload that it waited for if that has to be made again. -/
theorem pending?_answeredAll : n'.pending? slot = (n.pending? slot).filter (remains answers) := by
  have slots : ∀ p ∈ uploads, p.slot ∈ ImageSlot.all := fun p hp =>
    slot_of_mem_pendingUploads ((made p).1 hp)
  have waited {q : PendingUpload} (hq : q ∈ uploads) (h : Writes answers n.id slot.idKey q) :
      n.pending? slot = some q :=
    pending?_of_writes hs sole (by simp [ImageSlot.keys]) ((made q).1 hq) h
  cases hp : n.pending? slot with
  | none =>
    rw [pending?_of_unwritten hs slots there there', hp]
    · rfl
    · intro q hq h
      cases hp.symm.trans (waited hq h)
  | some p =>
    rw [Option.filter_some]
    cases ha : answers p with
    | error e =>
      rw [pending?_of_unwritten hs slots there there', hp]
      · simp [remains, ha]
      · intro q hq h
        obtain rfl := Option.some.inj (hp.symm.trans (waited hq h))
        obtain ⟨u, succeeded⟩ := h.succeeded
        cases ha.symm.trans succeeded
    | ok u =>
      obtain ⟨node, rfl⟩ := Node.pending?_eq_some hp
      have identified := attribute?_of_pending? hn hs sole made there there' hp ha (.inl rfl)
      rw [PendingUpload.get?_patch, if_neg (ImageSlot.idKey_ne_urlKey _ hs), if_pos rfl]
        at identified
      have data : n'.text? p.slot.dataKey = some p.data :=
        (text?_dataKey hs slots there there').trans (Node.text?_of_pending? hp)
      rw [Node.pending?_of_identifier ((node?_id there').trans node.symm) identified data]
      simp [remains, ha]

end

section

variable (distinct : (nodes.map Node.id).Nodup) (unique : (w.nodes.map Node.id).Nodup)
  (known : ∀ n ∈ nodes, n ∈ w.nodes)
include distinct unique known

/-- What waits for an upload afterwards is what has to be made again. -/
theorem remaining_refreshed :
    pendingUploads ((w.answeredAll answers (pendingUploads nodes)).refreshed nodes) =
      (pendingUploads nodes).filter (remains answers) := by
  -- The list is walked with the workflow held fixed, so it is not the list of the uploads any more.
  suffices ∀ part : List Node, (∀ n ∈ part, n ∈ nodes) →
      pendingUploads ((w.answeredAll answers (pendingUploads nodes)).refreshed part) =
        (pendingUploads part).filter (remains answers) from
    this nodes fun _ hn => hn
  intro part within
  induction part with
  | nil => rfl
  | cons n rest ih =>
    obtain ⟨hn, hr⟩ := List.forall_mem_cons.1 within
    have there := node?_of_mem unique (known n hn)
    have kept : ((w.answeredAll answers (pendingUploads nodes)).node? n.id).isSome := by
      rw [isSome_node?_answeredAll, there]
      rfl
    obtain ⟨n', there'⟩ := Option.isSome_iff_exists.1 kept
    have sole : ∀ m ∈ nodes, m.id = n.id → m = n := fun m hm => eq_of_id_eq distinct hm hn
    have own : ImageSlot.all.filterMap n'.pending? =
        (ImageSlot.all.filterMap n.pending?).filter (remains answers) := by
      rw [List.filter_filterMap]
      exact List.filterMap_congr fun slot hs =>
        pending?_answeredAll hn hs sole (fun _ => Iff.rfl) there there'
    rw [refreshed_cons there', pendingUploads_cons, own, ih hr, pendingUploads_cons n rest,
      List.filter_append]

/-- If no identifier is blank, then what waits for an upload afterwards is what failed. -/
theorem pendingUploads_refreshed
    (filled : ∀ p ∈ pendingUploads nodes, ∀ u, answers p = .ok u → Text.allBlank u.id = false) :
    pendingUploads ((w.answeredAll answers (pendingUploads nodes)).refreshed nodes) =
      (pendingUploads nodes).filter fun p => !(answers p).isOk := by
  rw [remaining_refreshed distinct unique known]
  refine List.filter_congr fun p hp => ?_
  cases ha : answers p with
  | error => simp [remains, ha, Except.isOk, Except.toBool]
  | ok u => simp [remains, ha, Except.isOk, Except.toBool, filled p hp u ha]

end

end Workflow

end ImageGraph
