/-!
What is left of a text without a given beginning or end.
-/

namespace ImageGraph.Text

/-- The rest of `s` after `start`, if `s` begins with it. -/
def dropStart? : List Char → List Char → Option (List Char)
  | [], s => some s
  | _ :: _, [] => none
  | a :: start, c :: s => if a = c then dropStart? start s else none

theorem dropStart?_eq_some {start s rest : List Char} :
    dropStart? start s = some rest ↔ s = start ++ rest := by
  induction start generalizing s with
  | nil => simp [dropStart?]
  | cons a start ih =>
    cases s with
    | nil => simp [dropStart?]
    | cons c s =>
      by_cases h : a = c
      · simp [dropStart?, h, ih]
      · simp [dropStart?, h, Ne.symm h]

/-- The rest of `s` after `start`, if `s` begins with it. -/
def afterStart? (start s : String) : Option String :=
  (dropStart? start.toList s.toList).map String.ofList

theorem afterStart?_eq_some {start s rest : String} :
    afterStart? start s = some rest ↔ s = start ++ rest := by
  simp only [afterStart?, Option.map_eq_some_iff, dropStart?_eq_some]
  constructor
  · rintro ⟨after, h, rfl⟩
    exact String.toList_inj.1 (by simp [h])
  · rintro rfl
    exact ⟨rest.toList, String.toList_append, String.ofList_toList⟩

/-- The part of `s` before its ending `finish`, if `s` ends with it. -/
def beforeEnd? (finish s : String) : Option String :=
  (dropStart? finish.toList.reverse s.toList.reverse).map fun r => String.ofList r.reverse

def startsWith (start s : String) : Bool :=
  (afterStart? start s).isSome

theorem startsWith_iff {start s : String} :
    startsWith start s = true ↔ ∃ rest, s = start ++ rest := by
  rw [startsWith, Option.isSome_iff_exists]
  exact exists_congr fun _ => afterStart?_eq_some

def endsWith (finish s : String) : Bool :=
  (beforeEnd? finish s).isSome

theorem endsWith_iff {finish s : String} :
    endsWith finish s = true ↔ ∃ before, s = before ++ finish := by
  rw [endsWith, beforeEnd?, Option.isSome_map, Option.isSome_iff_exists]
  simp only [dropStart?_eq_some]
  constructor
  · rintro ⟨before, h⟩
    refine ⟨String.ofList before.reverse, String.toList_inj.1 ?_⟩
    rw [← List.reverse_inj, h]
    simp
  · rintro ⟨before, rfl⟩
    exact ⟨before.toList.reverse, by simp⟩

/-- The parts of `s` before and after the first `mark`, if there is one. -/
def cut? (mark : Char) (s : String) : Option (String × String) :=
  match s.toList.dropWhile (· ≠ mark) with
  | [] => none
  | _ :: after => some (String.ofList (s.toList.takeWhile (· ≠ mark)), String.ofList after)

theorem cut?_eq_some {mark : Char} {s before after : String} :
    cut? mark s = some (before, after) ↔
      s = before ++ String.singleton mark ++ after ∧ mark ∉ before.toList := by
  constructor
  · intro h
    unfold cut? at h
    split at h
    · cases h
    · rename_i c rest at_mark
      cases h
      have found : c = mark := by
        have first := List.head?_dropWhile_not (fun d => decide (d ≠ mark)) s.toList
        rw [at_mark] at first
        simpa using first
      have whole : s.toList.takeWhile (· ≠ mark) ++ s.toList.dropWhile (· ≠ mark) = s.toList :=
        List.takeWhile_append_dropWhile
      rw [at_mark, found] at whole
      refine ⟨String.toList_inj.1 ?_, fun inside => ?_⟩
      · simp only [String.toList_append, String.toList_ofList, String.toList_singleton,
          List.append_assoc, List.singleton_append]
        exact whole.symm
      · have other := List.all_eq_true.1 List.all_takeWhile mark (String.toList_ofList ▸ inside)
        simp at other
  · rintro ⟨rfl, apart⟩
    have others : ∀ c ∈ before.toList, decide (c ≠ mark) = true := fun c hc =>
      decide_eq_true fun same => apart (same ▸ hc)
    rw [cut?, String.toList_append, String.toList_append, List.append_assoc,
      List.dropWhile_append_of_pos others, List.takeWhile_append_of_pos others]
    simp

end ImageGraph.Text
