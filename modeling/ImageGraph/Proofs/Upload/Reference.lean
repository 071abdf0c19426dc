import ImageGraph.Proofs.Upload.Answer
import ImageGraph.Request.Lineage

/-! How an image that a node holds gets into a request: by a reference, or by an upload that brings
one. Between the two rules there is one gap, a data URL without local data and without an
identifier. -/

namespace ImageGraph

open Json

namespace Node

variable {n : Node} {slot : ImageSlot}

/-- A node holds an image in a slot, as data, by an identifier or at a URL. -/
def Holds (n : Node) (slot : ImageSlot) : Prop :=
  ∃ key ∈ slot.keys, (n.text? key).isSome

/-- The upload of a slot is still to be made. -/
def Awaits (n : Node) (slot : ImageSlot) : Prop :=
  ∃ p ∈ pendingUploads [n], p.slot = slot

/-- A slot has a data URL and nothing else. -/
structure Stranded (n : Node) (slot : ImageSlot) : Prop where
  dataUrl : ∃ url, n.text? slot.urlKey = some url ∧ Text.startsWith "data:" url = true
  unidentified : n.text? slot.idKey = none
  noData : n.text? slot.dataKey = none

theorem awaits_iff (hs : slot ∈ ImageSlot.all) :
    n.Awaits slot ↔ n.text? slot.idKey = none ∧ (n.text? slot.dataKey).isSome := by
  have pending : (n.pending? slot).isSome ↔
      n.text? slot.idKey = none ∧ (n.text? slot.dataKey).isSome := by
    unfold pending?
    cases n.text? slot.idKey <;> simp
  rw [← pending, Awaits, Option.isSome_iff_exists]
  refine exists_congr fun p => ?_
  constructor
  · rintro ⟨hp, rfl⟩
    obtain ⟨m, hm, -, found⟩ := mem_pendingUploads.1 hp
    rwa [← List.mem_singleton.1 hm]
  · intro found
    obtain ⟨-, rfl⟩ := pending?_eq_some found
    exact ⟨mem_pendingUploads.2 ⟨n, List.mem_singleton_self n, hs, found⟩, rfl⟩

/-- There is no reference just if there is no identifier, and no URL but a data URL. -/
theorem remote?_eq_none_iff :
    n.remote? slot.urlKey slot.idKey = none ↔ n.text? slot.idKey = none ∧
      ∀ url, n.text? slot.urlKey = some url → Text.startsWith "data:" url = true := by
  unfold remote?
  cases n.text? slot.urlKey with
  | none => simp
  | some url => cases data : Text.startsWith "data:" url <;> simp [Option.filter, data]

/-- An image that a node holds has a reference or awaits its upload, unless it is a data URL
alone. -/
theorem Holds.reachable (hs : slot ∈ ImageSlot.all) (held : n.Holds slot) :
    (n.remote? slot.urlKey slot.idKey).isSome ∨ n.Awaits slot ↔ ¬ n.Stranded slot := by
  constructor
  · rintro (reference | awaits) stranded
    · obtain ⟨url, hu, dataUrl⟩ := stranded.dataUrl
      have none : n.remote? slot.urlKey slot.idKey = none := by
        refine remote?_eq_none_iff.2 ⟨stranded.unidentified, fun other ho => ?_⟩
        rwa [← Option.some.inj (hu.symm.trans ho)]
      rw [none] at reference
      cases reference
    · have data := ((awaits_iff hs).1 awaits).2
      rw [stranded.noData] at data
      cases data
  · intro free
    by_contra neither
    obtain ⟨none, awaits⟩ := not_or.1 neither
    obtain ⟨unidentified, dataUrl⟩ := remote?_eq_none_iff.1 (Option.not_isSome_iff_eq_none.1 none)
    have noData : ¬ (n.text? slot.dataKey).isSome :=
      fun data => awaits ((awaits_iff hs).2 ⟨unidentified, data⟩)
    obtain ⟨key, hk, there⟩ := held
    simp only [ImageSlot.keys, List.mem_cons, List.not_mem_nil, or_false] at hk
    obtain rfl | rfl | rfl := hk
    -- What is held is neither data nor an identifier, so it is the URL.
    · exact noData there
    · rw [unidentified] at there
      cases there
    · obtain ⟨url, hu⟩ := Option.isSome_iff_exists.1 there
      exact free ⟨⟨url, hu, dataUrl url hu⟩, unidentified, Option.not_isSome_iff_eq_none.1 noData⟩

/-- An image or mask that a node holds can be referred to or awaits its upload, unless there is a
data URL and nothing else. -/
theorem held_reachable_iff (n : Node) :
    (n.Holds .image → (n.image?.isSome ∨ n.Awaits .image ↔ ¬ n.Stranded .image)) ∧
      (n.Holds .mask → (n.mask?.isSome ∨ n.Awaits .mask ↔ ¬ n.Stranded .mask)) :=
  ⟨fun held => held.reachable (by decide), fun held => held.reachable (by decide)⟩

/-- A data URL is no reference, but its data has an upload to come; for the mask there is an
identifier. -/
theorem held_reachable_data :
    let n : Node := ⟨"n", "image", .obj [("imageData", .str "AAAA"),
      ("imageUrl", .str "data:image/png;base64,AAAA"), ("maskId", .str "id"),
      ("maskUrl", .str "data:image/png;base64,AAAA")]⟩
    n.Holds .image ∧ n.Holds .mask ∧ (n.image?.isSome ∨ n.Awaits .image) ∧
      (n.mask?.isSome ∨ n.Awaits .mask) := by
  intro n
  have image : n.Holds .image := ⟨"imageUrl", by decide, by decide +kernel⟩
  have mask : n.Holds .mask := ⟨"maskUrl", by decide, by decide +kernel⟩
  refine ⟨image, mask, (n.held_reachable_iff.1 image).2 fun stranded => ?_,
    (n.held_reachable_iff.2 mask).2 fun stranded => ?_⟩
  · exact absurd stranded.noData (by decide +kernel)
  · exact absurd stranded.unidentified (by decide +kernel)

/-- A data URL alone is neither a reference nor uploaded. -/
theorem data_url_stranded :
    let n : Node := ⟨"n", "image", .obj [("imageUrl", .str "data:image/png;base64,AAAA")]⟩
    n.Holds .image ∧ ¬ (n.image?.isSome ∨ n.Awaits .image) := by
  intro n
  have none : pendingUploads [n] = [] := by decide +kernel
  refine ⟨⟨"imageUrl", by decide, by decide +kernel⟩, not_or.2 ⟨by decide +kernel, ?_⟩⟩
  rintro ⟨p, hp, -⟩
  rw [none] at hp
  cases hp

end Node

end ImageGraph
