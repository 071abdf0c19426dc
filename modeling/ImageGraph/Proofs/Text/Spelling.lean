import ImageGraph.Proofs.Text.Trim

/-! The spelling of a text: the case of its letters and the blanks around it. Trimming and small
letters remove both, in either order. -/

namespace ImageGraph.Text

/-- `t` is `s` with letters in another case and with blanks put around it. -/
def Respelled (s t : String) : Prop :=
  ∃ before core after, allBlank before = true ∧ allBlank after = true ∧ lower core = lower s ∧
    t = before ++ core ++ after

/-- The blanks in front of a text. -/
def leading (s : String) : String :=
  String.ofList (s.toList.takeWhile isBlank)

/-- The blanks behind a text. Those of a blank text all count as in front. -/
def trailing (s : String) : String :=
  String.ofList ((trimStart s.toList).reverse.takeWhile isBlank).reverse

/-! ### Letters -/

/-- A capital has its small letter 32 places further on; every other character stays. -/
theorem toLower_cases (c : Char) :
    c.toLower = c ∨ 65 ≤ c.toNat ∧ c.toNat ≤ 90 ∧ c.toLower.toNat = c.toNat + 32 := by
  unfold Char.toLower
  split
  · rename_i h
    have low : 65 ≤ c.toNat := UInt32.le_iff_toNat_le.1 h.1
    have high : c.toNat ≤ 90 := UInt32.le_iff_toNat_le.1 h.2
    have sum : (c.val + ('a'.val - 'A'.val)).toNat = c.toNat + 32 := by
      rw [UInt32.toNat_add]
      exact Nat.mod_eq_of_lt (by change c.toNat + 32 < 2 ^ 32; omega)
    exact .inr ⟨low, high, sum⟩
  · exact .inl rfl

theorem toLower_toLower (c : Char) : c.toLower.toLower = c.toLower := by
  obtain same | ⟨low, high, -⟩ := toLower_cases c.toLower
  · exact same
  · obtain same | ⟨low', high', small⟩ := toLower_cases c
    · rw [same, same]
    · omega

/-- No letter, digit or mark is blank. -/
theorem isBlank_of_visible {c : Char} (low : 33 ≤ c.toNat) (high : c.toNat ≤ 126) :
    isBlank c = false := by
  have apart : ∀ range ∈ blankRanges, range.2 < 33 ∨ 126 < range.1 := by decide
  rw [isBlank, List.any_eq_false]
  intro range hr
  have outside := apart range hr
  simp only [Bool.and_eq_true, decide_eq_true_eq]
  omega

theorem isBlank_toLower (c : Char) : isBlank c.toLower = isBlank c := by
  obtain same | ⟨low, high, small⟩ := toLower_cases c
  · rw [same]
  · have capital : isBlank c = false := isBlank_of_visible (by omega) (by omega)
    rw [capital]
    exact isBlank_of_visible (by omega) (by omega)

theorem toLower_of_isBlank {c : Char} (h : isBlank c = true) : c.toLower = c := by
  obtain same | ⟨low, high, -⟩ := toLower_cases c
  · exact same
  · rw [isBlank_of_visible (by omega) (by omega)] at h
    cases h

/-! ### Small letters -/

theorem lower_append (s t : String) : lower (s ++ t) = lower s ++ lower t := by
  simp [lower]

theorem lower_lower (s : String) : lower (lower s) = lower s := by
  rw [lower, lower, String.toList_ofList, List.map_map]
  exact congrArg String.ofList (List.map_congr_left fun c _ => toLower_toLower c)

theorem lower_of_allBlank {s : String} (h : allBlank s = true) : lower s = s := by
  rw [allBlank, List.all_eq_true] at h
  have same : s.toList.map Char.toLower = s.toList.map id :=
    List.map_congr_left fun c hc => toLower_of_isBlank (h c hc)
  rw [lower, same, List.map_id, String.ofList_toList]

theorem allBlank_lower (s : String) : allBlank (lower s) = allBlank s := by
  simp [allBlank, lower, Function.comp_def, isBlank_toLower]

theorem trim_lower (s : String) : trim (lower s) = lower (trim s) := by
  have kept : isBlank ∘ Char.toLower = isBlank := funext isBlank_toLower
  simp only [trim, lower, trimStart, trimEnd, String.toList_ofList, List.dropWhile_map,
    ← List.map_reverse, kept]

/-! ### Blanks around a text -/

theorem allBlank_append (s t : String) : allBlank (s ++ t) = (allBlank s && allBlank t) := by
  simp [allBlank]

theorem allBlank_leading (s : String) : allBlank (leading s) = true := by
  simp [allBlank, leading]

theorem allBlank_trailing (s : String) : allBlank (trailing s) = true := by
  simp [allBlank, trailing]

theorem leading_append_trim_append_trailing (s : String) :
    leading s ++ trim s ++ trailing s = s := by
  apply String.toList_inj.1
  simp only [leading, trim, trailing, trimEnd, String.toList_append, String.toList_ofList,
    List.append_assoc, ← List.reverse_append, List.takeWhile_append_dropWhile, List.reverse_reverse]
  exact List.takeWhile_append_dropWhile

theorem trim_around {before after : String} (hb : allBlank before = true)
    (ha : allBlank after = true) (s : String) : trim (before ++ s ++ after) = trim s := by
  rw [allBlank, List.all_eq_true] at hb ha
  have ha' : ∀ c ∈ after.toList.reverse, isBlank c = true := fun c hc =>
    ha c (List.mem_reverse.1 hc)
  simp only [trim, trimStart, trimEnd, String.toList_append, List.append_assoc,
    List.dropWhile_append_of_pos hb, List.dropWhile_append]
  split
  · rename_i none
    rw [List.isEmpty_iff.1 none, List.dropWhile_eq_nil_iff.2 ha]
  · rw [List.reverse_append, List.dropWhile_append_of_pos ha']

/-! ### Texts in another spelling -/

namespace Respelled

variable {s t : String}

theorem lower_trim (h : Respelled s t) : lower (trim t) = lower (trim s) := by
  obtain ⟨before, core, after, hb, ha, same, rfl⟩ := h
  rw [trim_around hb ha, ← trim_lower, same, trim_lower]

theorem allBlank_eq (h : Respelled s t) : allBlank t = allBlank s := by
  obtain ⟨before, core, after, hb, ha, same, rfl⟩ := h
  rw [allBlank_append, allBlank_append, hb, ha, Bool.true_and, Bool.and_true, ← allBlank_lower core,
    same, allBlank_lower]

end Respelled

end ImageGraph.Text
