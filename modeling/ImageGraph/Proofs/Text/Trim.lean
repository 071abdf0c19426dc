import ImageGraph.Text.Blank
import Mathlib.Data.List.TakeWhile

/-! Texts without blanks at their ends. Trimming makes such a text and leaves one as it is, and
joining such texts with anything between them makes another. -/

namespace ImageGraph.Text

/-- No blank character stands at either end. -/
structure Trimmed (s : List Char) : Prop where
  head : ∀ c ∈ s.head?, isBlank c = false
  last : ∀ c ∈ s.getLast?, isBlank c = false

variable {s t : List Char}

private theorem dropWhile_isBlank (h : ∀ c ∈ s.head?, isBlank c = false) :
    s.dropWhile isBlank = s := by
  cases s with
  | nil => rfl
  | cons c rest => simp [h c rfl]

private theorem head?_dropWhile (s : List Char) :
    ∀ c ∈ (s.dropWhile isBlank).head?, isBlank c = false := by
  intro c hc
  have h := List.head?_dropWhile_not isBlank s
  rw [hc] at h
  exact h

theorem Trimmed.trim_eq {s : String} (h : Trimmed s.toList) : trim s = s := by
  have last : ∀ c ∈ s.toList.reverse.head?, isBlank c = false := by
    rw [List.head?_reverse]
    exact h.last
  rw [trim, trimStart, dropWhile_isBlank h.head, trimEnd, dropWhile_isBlank last,
    List.reverse_reverse, String.ofList_toList]

theorem trimmed_trim (s : String) : Trimmed (trim s).toList := by
  rw [trim, String.toList_ofList]
  constructor
  · intro c hc
    -- What is left of a text when its end is trimmed begins as the text does.
    have front : trimEnd (trimStart s.toList) <+: trimStart s.toList := by
      rw [trimEnd, ← List.reverse_suffix, List.reverse_reverse]
      exact List.dropWhile_suffix isBlank
    obtain ⟨cut, whole⟩ := front
    refine head?_dropWhile s.toList c ?_
    change c ∈ (trimStart s.toList).head?
    rw [← whole, List.head?_append, hc]
    rfl
  · intro c hc
    rw [trimEnd, List.getLast?_reverse] at hc
    exact head?_dropWhile _ c hc

theorem trim_ne_nil {s : String} (h : allBlank s = false) : (trim s).toList ≠ [] := by
  intro none
  rw [trim, String.toList_ofList, trimEnd, List.reverse_eq_nil_iff, List.dropWhile_eq_nil_iff]
    at none
  cases hs : trimStart s.toList with
  | nil =>
    rw [trimStart, List.dropWhile_eq_nil_iff] at hs
    rw [allBlank, List.all_eq_true.2 hs] at h
    cases h
  | cons c rest =>
    have first := head?_dropWhile s.toList c (congrArg List.head? hs)
    rw [none c (by simp [hs])] at first
    cases first

theorem Trimmed.filled {s : String} (h : Trimmed s.toList) (some : s.toList ≠ []) :
    allBlank s = false := by
  obtain ⟨first, rest, hs⟩ := List.exists_cons_of_ne_nil some
  have shown : isBlank first = false := h.head first (by rw [hs]; rfl)
  simp [allBlank, hs, shown]

theorem filled_append {s : String} (h : allBlank s = false) (t : String) :
    allBlank (s ++ t) = false := by
  rw [allBlank] at h
  simp [allBlank, h]

theorem Trimmed.append (hs : Trimmed s) (ht : Trimmed t) (hs' : s ≠ []) (ht' : t ≠ [])
    (sep : List Char) : Trimmed (s ++ sep ++ t) where
  head c hc := by
    obtain ⟨first, rest, rfl⟩ := List.exists_cons_of_ne_nil hs'
    exact hs.head c hc
  last c hc := by
    rw [List.getLast?_append, List.getLast?_eq_some_getLast ht'] at hc
    rw [← Option.some.inj hc]
    exact ht.last _ (List.getLast?_eq_some_getLast ht')

theorem trimmed_intercalate (sep : List Char) {texts : List (List Char)}
    (h : ∀ t ∈ texts, Trimmed t ∧ t ≠ []) (some : texts ≠ []) :
    Trimmed (sep.intercalate texts) ∧ sep.intercalate texts ≠ [] := by
  induction texts with
  | nil => exact absurd rfl some
  | cons first rest ih =>
    obtain ⟨⟨trimmed, filled⟩, h⟩ := List.forall_mem_cons.1 h
    cases rest with
    | nil => simpa using ⟨trimmed, filled⟩
    | cons second rest =>
      obtain ⟨later, more⟩ := ih h (List.cons_ne_nil _ _)
      rw [List.intercalate_cons_cons]
      exact ⟨trimmed.append later filled more sep, by simp [filled]⟩

/-- With one more separator in front a join is as long as its texts, each with a separator of its
own. -/
theorem length_intercalate (sep : List Char) {texts : List (List Char)} (some : texts ≠ []) :
    sep.length + (sep.intercalate texts).length = (texts.flatMap fun t => sep ++ t).length := by
  induction texts with
  | nil => exact absurd rfl some
  | cons first rest ih =>
    cases rest with
    | nil => simp
    | cons second rest =>
      have later := ih (List.cons_ne_nil _ _)
      rw [List.intercalate_cons_cons, List.flatMap_cons]
      simp only [List.length_append] at later ⊢
      omega

/-- So a join is as long in any order of its texts. -/
theorem length_intercalate_perm (sep : List Char) {texts texts' : List (List Char)}
    (h : texts.Perm texts') :
    (sep.intercalate texts).length = (sep.intercalate texts').length := by
  by_cases some : texts = []
  · subst some
    rw [h.nil_eq]
  · have some' : texts' ≠ [] := fun none => some (none ▸ h).eq_nil
    have total := (h.flatMap_right fun t => sep ++ t).length_eq
    rw [← length_intercalate sep some, ← length_intercalate sep some'] at total
    omega

theorem trim_intercalate (sep : String) {texts : List String}
    (filled : ∀ t ∈ texts, allBlank t = false) (some : texts ≠ []) :
    trim (sep.intercalate (texts.map trim)) = sep.intercalate (texts.map trim) := by
  apply Trimmed.trim_eq
  rw [String.toList_intercalate, List.map_map]
  refine (trimmed_intercalate sep.toList (fun t ht => ?_) (by simpa using some)).1
  obtain ⟨s, hs, rfl⟩ := List.mem_map.1 ht
  exact ⟨trimmed_trim s, trim_ne_nil (filled s hs)⟩

theorem length_trim_intercalate_perm (sep : String) {texts texts' : List String}
    (h : texts.Perm texts') (filled : ∀ t ∈ texts, allBlank t = false) :
    (trim (sep.intercalate (texts.map trim))).length =
      (trim (sep.intercalate (texts'.map trim))).length := by
  by_cases some : texts = []
  · subst some
    rw [h.nil_eq]
  · have some' : texts' ≠ [] := fun none => some (none ▸ h).eq_nil
    rw [trim_intercalate sep filled some,
      trim_intercalate sep (fun t ht => filled t (h.mem_iff.2 ht)) some', ← String.length_toList,
      ← String.length_toList, String.toList_intercalate, String.toList_intercalate]
    exact length_intercalate_perm sep.toList ((h.map trim).map String.toList)

end ImageGraph.Text
