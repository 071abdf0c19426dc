import ImageGraph.Json.Basic

/-!
Objects with their keys in strictly ascending order. Main statements: an insertion changes the
value under its key only, and two objects that agree under every key are equal.
-/

namespace ImageGraph.Json

/-- Puts a value under a key, in its place among sorted entries. -/
def insertEntry (key : String) (value : Json) : List (String × Json) → List (String × Json)
  | [] => [(key, value)]
  | (k, v) :: rest =>
    if key < k then (key, value) :: (k, v) :: rest
    else if k < key then (k, v) :: insertEntry key value rest
    else (key, value) :: rest

def eraseEntry (key : String) (entries : List (String × Json)) : List (String × Json) :=
  entries.filter fun e => e.1 ≠ key

abbrev Ascending (entries : List (String × Json)) : Prop :=
  entries.Pairwise fun a b => a.1 < b.1

theorem mem_insertEntry {key : String} {value : Json} {entries : List (String × Json)}
    {e : String × Json} (h : e ∈ insertEntry key value entries) :
    e = (key, value) ∨ e ∈ entries := by
  induction entries with
  | nil => simpa [insertEntry] using h
  | cons a rest ih => grind [insertEntry]

theorem Ascending.insertEntry {key : String} {value : Json} {entries : List (String × Json)}
    (h : Ascending entries) : Ascending (insertEntry key value entries) := by
  induction entries with
  | nil => simp [Json.insertEntry]
  | cons a rest ih =>
    obtain ⟨ha, hr⟩ := List.pairwise_cons.1 h
    unfold Json.insertEntry
    split
    · rename_i hk
      refine List.pairwise_cons.2 ⟨fun e he => ?_, h⟩
      rcases List.mem_cons.1 he with rfl | he
      · exact hk
      · exact String.lt_trans hk (ha e he)
    · split
      · rename_i hk
        refine List.pairwise_cons.2 ⟨fun e he => ?_, ih hr⟩
        rcases mem_insertEntry he with rfl | he
        · exact hk
        · exact ha e he
      · rename_i hk hk'
        have : key = a.1 := String.le_antisymm hk' hk
        subst this
        exact List.pairwise_cons.2 ⟨ha, hr⟩

/-- An object whose keys ascend, so that each has one value and one place. -/
structure Object where
  entries : List (String × Json)
  ascending : Ascending entries

namespace Object

def empty : Object := ⟨[], .nil⟩

instance : Inhabited Object := ⟨empty⟩

def get? (o : Object) (key : String) : Option Json :=
  o.entries.lookup key

def insert (o : Object) (key : String) (value : Json) : Object :=
  ⟨insertEntry key value o.entries, o.ascending.insertEntry⟩

def erase (o : Object) (key : String) : Object :=
  ⟨eraseEntry key o.entries, o.ascending.filter _⟩

/-- Of several values for one key the first counts. -/
def ofList (entries : List (String × Json)) : Object :=
  entries.foldr (fun e o => o.insert e.1 e.2) empty

/-- Puts the value, if there is one. -/
def insertSome (o : Object) (key : String) : Option Json → Object
  | none => o
  | some value => o.insert key value

def toJson (o : Object) : Json :=
  obj o.entries

end Object

/-- The object that a value is, if it is one. -/
def object? : Json → Option Object
  | obj entries => some (.ofList entries)
  | _ => none

theorem lookup_cons_eq (k : String) (a : String × Json) (rest : List (String × Json)) :
    (a :: rest).lookup k = if k = a.1 then some a.2 else rest.lookup k := by
  obtain ⟨l, v⟩ := a
  by_cases h : k = l
  · simp [h]
  · simp [List.lookup_cons, h, beq_eq_false_iff_ne.2 h]

theorem lookup_insertEntry (key k : String) (value : Json) (entries : List (String × Json)) :
    (insertEntry key value entries).lookup k =
      if k = key then some value else entries.lookup k := by
  induction entries with
  | nil => simp [insertEntry, lookup_cons_eq]
  | cons a rest ih =>
    unfold insertEntry
    split
    · simp [lookup_cons_eq]
    · split
      · rename_i h
        have : a.1 ≠ key := fun e => String.lt_irrefl _ (e ▸ h)
        by_cases hk : k = a.1
        · subst hk; simp [lookup_cons_eq, this]
        · simp [lookup_cons_eq, hk, ih]
      · rename_i h h'
        have : key = a.1 := String.le_antisymm h' h
        subst this
        by_cases hk : k = a.1 <;> simp [lookup_cons_eq, hk]

theorem lookup_eraseEntry (key k : String) (entries : List (String × Json)) :
    (eraseEntry key entries).lookup k = if k = key then none else entries.lookup k := by
  induction entries with
  | nil => simp [eraseEntry]
  | cons a rest ih =>
    by_cases h : a.1 = key
    · rw [show eraseEntry key (a :: rest) = eraseEntry key rest by simp [eraseEntry, h], ih,
        lookup_cons_eq]
      grind
    · rw [show eraseEntry key (a :: rest) = a :: eraseEntry key rest by simp [eraseEntry, h],
        lookup_cons_eq, lookup_cons_eq, ih]
      grind

theorem lookup_eq_none_of_lt {k : String} {entries : List (String × Json)}
    (h : ∀ e ∈ entries, k < e.1) : entries.lookup k = none := by
  induction entries with
  | nil => rfl
  | cons a rest ih =>
    have ha : k ≠ a.1 := fun e => String.lt_irrefl _ (e ▸ h a (by simp))
    simp [lookup_cons_eq, ha, ih fun e he => h e (by simp [he])]

namespace Object

@[simp] theorem get?_empty (k : String) : empty.get? k = none := rfl

@[simp] theorem get?_insert (o : Object) (key k : String) (value : Json) :
    (o.insert key value).get? k = if k = key then some value else o.get? k :=
  lookup_insertEntry ..

@[simp] theorem get?_erase (o : Object) (key k : String) :
    (o.erase key).get? k = if k = key then none else o.get? k :=
  lookup_eraseEntry ..

theorem get?_ofList (entries : List (String × Json)) (k : String) :
    (ofList entries).get? k = entries.lookup k := by
  induction entries with
  | nil => rfl
  | cons a rest ih =>
    have : ofList (a :: rest) = (ofList rest).insert a.1 a.2 := rfl
    by_cases h : k = a.1 <;> simp [this, lookup_cons_eq, h, ih]

/-- Objects that agree under every key are equal. -/
theorem ext_get? {o p : Object} (h : ∀ k, o.get? k = p.get? k) : o = p := by
  obtain ⟨xs, hx⟩ := o
  obtain ⟨ys, hy⟩ := p
  suffices xs = ys by subst this; rfl
  change ∀ k, xs.lookup k = ys.lookup k at h
  induction xs generalizing ys with
  | nil =>
    cases ys with
    | nil => rfl
    | cons b ys => simpa [lookup_cons_eq] using h b.1
  | cons a xs ih =>
    cases ys with
    | nil => simpa [lookup_cons_eq] using h a.1
    | cons b ys =>
      obtain ⟨ha, hxs⟩ := List.pairwise_cons.1 hx
      obtain ⟨hb, hys⟩ := List.pairwise_cons.1 hy
      have key : a.1 = b.1 := by
        refine String.le_antisymm (fun hlt => ?_) (fun hlt => ?_)
        rotate_left
        · have := h a.1
          have none : (b :: ys).lookup a.1 = none := by
            refine lookup_eq_none_of_lt fun e he => ?_
            rcases List.mem_cons.1 he with rfl | he
            · exact hlt
            · exact String.lt_trans hlt (hb e he)
          rw [none] at this
          simp [lookup_cons_eq] at this
        · have := h b.1
          have none : (a :: xs).lookup b.1 = none := by
            refine lookup_eq_none_of_lt fun e he => ?_
            rcases List.mem_cons.1 he with rfl | he
            · exact hlt
            · exact String.lt_trans hlt (ha e he)
          rw [none] at this
          simp [lookup_cons_eq] at this
      have value : a.2 = b.2 := by simpa [lookup_cons_eq, key] using h a.1
      have rest : xs = ys := by
        refine ih hxs ys hys fun k => ?_
        by_cases hk : k = a.1
        · subst hk
          rw [lookup_eq_none_of_lt ha, lookup_eq_none_of_lt (key ▸ hb)]
        · have := h k
          rw [lookup_cons_eq, lookup_cons_eq] at this
          simpa [hk, key ▸ hk] using this
      rw [Prod.ext key value, rest]

/-- Sorted entries are read back as they are. -/
@[simp] theorem ofList_entries (o : Object) : ofList o.entries = o :=
  ext_get? fun k => get?_ofList o.entries k

@[simp] theorem object?_toJson (o : Object) : o.toJson.object? = some o :=
  congrArg some o.ofList_entries

end Object

end ImageGraph.Json
