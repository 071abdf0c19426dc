import ImageGraph.Role.Classify
import Mathlib.Data.List.Nodup

/-! What a type string stands for. The table of families is worked off from the top, and since its
entries get no longer on the way down, the first entry that opens a type string is the longest one
that does. -/

namespace ImageGraph

namespace Family

/-- A type string begins with `start`: it ends there, or goes on with a hyphen and a subtype. -/
inductive Opens (start : String) : String → String → Prop where
  | alone : Opens start start ""
  | joined (subtype : String) : Opens start (start ++ "-" ++ subtype) subtype

/-- No entry of the table opens a type string. -/
def Unopened (type : String) : Prop :=
  ∀ entry ∈ starts, ∀ subtype, ¬ Opens entry.1 type subtype

/-- The longest entry of the table that opens a type string, with the subtype that it leaves. -/
structure Chosen (type start : String) (family : Family) (subtype : String) : Prop where
  listed : (start, family) ∈ starts
  opens : Opens start type subtype
  longest : ∀ entry ∈ starts, ∀ rest, Opens entry.1 type rest →
    entry.1 = start ∨ entry.1.length < start.length

end Family

/-- How a tool is written as a subtype. -/
def Tool.spellings : Tool → List String
  | removeBackground => ["remove-background", "remove-bg"]
  | tool => [tool.name]

/-- How a control kind with a name of its own is written as a subtype. -/
def Control.spellings : Control → List String
  | pose => ["pose", "openpose"]
  | depth => ["depth"]
  | canny => ["canny", "edge", "edges"]
  | lineart => ["lineart", "line-art"]
  | scribble => ["scribble", "sketch"]
  | segmentation => ["segmentation", "segment", "seg"]
  | lights => ["lights", "light"]
  | other _ => []

/-- A family has no role for a subtype. -/
inductive Family.Refuses : Family → String → Prop where
  | tool {subtype : String} : (∀ t : Tool, subtype ∉ t.spellings) → Refuses .tool subtype
  | kontext {subtype : String} : (∀ k : Kontext, subtype ≠ k.name) → Refuses .kontext subtype
  | imageToImage {subtype : String} : subtype ≠ "" → (∀ t : Tool, subtype ∉ t.spellings) →
      (∀ k : Kontext, subtype ≠ k.name) → Refuses .imageToImage subtype

namespace Node

/-- The type string that a node goes by: its `role` attribute, with its `subtype` attribute if
there is one, and otherwise its type. -/
inductive Typed (n : Node) : String → Prop where
  | plain : n.text? "role" = none → Typed n (Text.lower (Text.trim n.kind))
  | role {role : String} : n.text? "role" = some role → n.text? "subtype" = none →
      Typed n (Text.lower (Text.trim role))
  | subtype {role subtype : String} : n.text? "role" = some role →
      n.text? "subtype" = some subtype →
      Typed n (Text.lower (Text.trim (role ++ "-" ++ subtype)))

/-- What a prompt says of its polarity, or else its subtype, decides whether it is negative. -/
inductive Sides (n : Node) (subtype : String) : Polarity → Prop where
  | negative {polarity : String} : n.text? "polarity" = some polarity →
      Text.lower (Text.trim polarity) = "negative" → Sides n subtype .negative
  | positive {polarity : String} : n.text? "polarity" = some polarity →
      Text.lower (Text.trim polarity) ≠ "negative" → Sides n subtype .positive
  | negativeType : n.text? "polarity" = none → subtype = "negative" → Sides n subtype .negative
  | positiveType : n.text? "polarity" = none → subtype ≠ "negative" → Sides n subtype .positive

/-- The role of a member of a family. -/
inductive Takes (n : Node) : Family → String → Role → Prop where
  | engine (subtype : String) : Takes n .engine subtype .engine
  | lora (subtype : String) : Takes n .lora subtype .lora
  | output (subtype : String) : Takes n .output subtype .output
  | imageSource (subtype : String) : Takes n .imageSource subtype .imageSource
  | prompt {subtype : String} {p : Polarity} :
      n.Sides subtype p → Takes n .prompt subtype (.prompt p)
  | controlNet {subtype : String} {c : Control} :
      subtype ∈ c.spellings → Takes n .controlNet subtype (.controlNet c)
  | otherControl {subtype : String} : (∀ c : Control, subtype ∉ c.spellings) →
      Takes n .controlNet subtype (.controlNet (.other subtype))
  | tool {subtype : String} {t : Tool} : subtype ∈ t.spellings → Takes n .tool subtype (.tool t)
  | kontext (k : Kontext) : Takes n .kontext k.name (.kontext k)
  | imageToImage : Takes n .imageToImage "" .imageToImage
  | imageTool {subtype : String} {t : Tool} :
      subtype ∈ t.spellings → Takes n .imageToImage subtype (.tool t)
  | imageKontext (k : Kontext) : Takes n .imageToImage k.name (.kontext k)

/-- How a type string decides on a role. -/
structure Decides (n : Node) (type : String) (role : Role) : Prop where
  passThrough : role = .passThrough ↔ Family.Unopened type
  unsupported : ∀ text, role = .unsupported text ↔
    text = type ∧ ∃ start family subtype,
      Family.Chosen type start family subtype ∧ family.Refuses subtype
  member : ∀ start family subtype, Family.Chosen type start family subtype →
    ¬ family.Refuses subtype → ∀ r, n.Takes family subtype r ↔ r = role

end Node

/-! ### The table -/

namespace Family

variable {type start subtype : String} {family : Family}

theorem subtypeAfter?_eq_some :
    subtypeAfter? start type = some subtype ↔ Opens start type subtype := by
  constructor
  · intro h
    unfold subtypeAfter? at h
    split at h
    · rename_i found
      cases h
      have same : type = start :=
        String.toList_inj.1 (by simpa using Text.dropStart?_eq_some.1 found)
      exact same ▸ .alone
    · rename_i rest found
      cases h
      have same : type = start ++ "-" ++ String.ofList rest :=
        String.toList_inj.1 (by simpa using Text.dropStart?_eq_some.1 found)
      exact same ▸ .joined _
    · cases h
  · intro h
    unfold subtypeAfter?
    cases h with
    | alone =>
      have found : Text.dropStart? type.toList type.toList = some [] :=
        Text.dropStart?_eq_some.2 (by simp)
      rw [found]
    | joined =>
      have found : Text.dropStart? start.toList (start ++ "-" ++ subtype).toList =
          some ('-' :: subtype.toList) :=
        Text.dropStart?_eq_some.2 (by simp)
      rw [found]
      simp

/-- Two beginnings of one text differ in length. -/
theorem eq_of_opens {other rest : String} (h : Opens start type subtype)
    (h' : Opens other type rest) (length : start.length = other.length) : start = other := by
  have begins {start subtype : String} (h : Opens start type subtype) :
      start.toList <+: type.toList := by
    cases h with
    | alone => exact List.prefix_rfl
    | joined => exact ⟨'-' :: subtype.toList, by simp⟩
  have alike : start.toList.length = other.toList.length := by
    rw [String.length_toList, String.length_toList, length]
  have one := List.prefix_of_prefix_length_le (begins h) (begins h') (Nat.le_of_eq alike)
  exact String.toList_inj.1 (one.eq_of_length alike)

theorem starts_descending : starts.Pairwise fun a b => b.1.length ≤ a.1.length := by
  decide

theorem starts_nodup : (starts.map Prod.fst).Nodup := by
  decide

/-- The first entry that opens a type string is the longest. -/
theorem exists_chosen (h : split? type = some (family, subtype)) :
    ∃ start, Chosen type start family subtype := by
  obtain ⟨before, ⟨start, own⟩, after, table, found, missed⟩ := List.findSome?_eq_some_iff.1 h
  obtain ⟨_, found, same⟩ := Option.map_eq_some_iff.1 found
  cases same
  have opens := subtypeAfter?_eq_some.1 found
  refine ⟨start, by simp [table], opens, fun entry listed rest other => ?_⟩
  rw [table] at listed
  obtain listed | listed := List.mem_append.1 listed
  · have none := Option.map_eq_none_iff.1 (missed entry listed)
    rw [subtypeAfter?_eq_some.2 other] at none
    cases none
  · obtain rfl | listed := List.mem_cons.1 listed
    · exact .inl rfl
    · have order := starts_descending
      rw [table, List.pairwise_append] at order
      have shorter := List.rel_of_pairwise_cons order.2.1 listed
      obtain less | equal := Nat.lt_or_eq_of_le shorter
      · exact .inr less
      · exact .inl (eq_of_opens other opens equal)

theorem split?_eq_none : split? type = none ↔ Unopened type := by
  rw [split?, List.findSome?_eq_none_iff]
  refine forall_congr' fun entry => imp_congr_right fun _ => ?_
  rw [Option.map_eq_none_iff, Option.eq_none_iff_forall_ne_some]
  exact forall_congr' fun subtype => not_congr subtypeAfter?_eq_some

theorem split?_eq_some :
    split? type = some (family, subtype) ↔ ∃ start, Chosen type start family subtype := by
  refine ⟨exists_chosen, ?_⟩
  rintro ⟨start, chosen⟩
  cases h : split? type with
  | none => exact absurd chosen.opens (split?_eq_none.1 h _ chosen.listed _)
  | some found =>
    obtain ⟨other, first⟩ := exists_chosen h
    -- Each of the two is the longest, so they are one entry.
    have same : start = other := by
      obtain same | less := first.longest _ chosen.listed _ chosen.opens
      · exact same
      · obtain same | more := chosen.longest _ first.listed _ first.opens
        · exact same.symm
        · exact absurd more (Nat.lt_asymm less)
    subst same
    have family : found.1 = family := by
      have entry := List.inj_on_of_nodup_map starts_nodup first.listed chosen.listed rfl
      exact congrArg Prod.snd entry
    have rest : some found.2 = some subtype :=
      (subtypeAfter?_eq_some.2 first.opens).symm.trans (subtypeAfter?_eq_some.2 chosen.opens)
    exact congrArg some (Prod.ext family (Option.some.inj rest))

end Family

/-! ### Subtypes -/

theorem Tool.ofSubtype?_eq_some {subtype : String} {t : Tool} :
    ofSubtype? subtype = some t ↔ subtype ∈ t.spellings := by
  constructor
  · intro h
    unfold ofSubtype? at h
    split at h <;> cases h <;> decide
  · intro h
    cases t <;> simp only [spellings, name, List.mem_cons, List.not_mem_nil, or_false] at h
    case removeBackground => obtain rfl | rfl := h <;> rfl
    all_goals subst h; rfl

theorem Kontext.ofSubtype?_eq_some {subtype : String} {k : Kontext} :
    ofSubtype? subtype = some k ↔ subtype = k.name := by
  constructor
  · intro h
    unfold ofSubtype? at h
    split at h <;> cases h <;> rfl
  · rintro rfl
    cases k <;> rfl

theorem Control.ofSubtype_of_mem {subtype : String} {c : Control} (h : subtype ∈ c.spellings) :
    ofSubtype subtype = c := by
  cases c <;> simp only [spellings, List.mem_cons, List.not_mem_nil, or_false] at h
  case pose | lineart | scribble | lights => obtain rfl | rfl := h <;> rfl
  case canny | segmentation => obtain rfl | rfl | rfl := h <;> rfl
  case depth => subst h; rfl

/-- A subtype is a spelling of what it stands for, or is taken as it is. -/
theorem Control.mem_spellings_or_other (subtype : String) :
    subtype ∈ (ofSubtype subtype).spellings ∨ ofSubtype subtype = .other subtype := by
  unfold ofSubtype
  split <;> simp [spellings]

theorem Control.ofSubtype_of_unspelt {subtype : String} (h : ∀ c : Control, subtype ∉ c.spellings) :
    ofSubtype subtype = .other subtype :=
  (mem_spellings_or_other subtype).resolve_left (h _)

/-! ### Roles -/

theorem Role.ofFamily_imageToImage {type subtype : String} (polarity : Option String)
    (given : subtype ≠ "") :
    ofFamily type polarity .imageToImage subtype =
      ((Tool.ofSubtype? subtype).map tool <|> (Kontext.ofSubtype? subtype).map kontext).getD
        (unsupported type) := by
  unfold ofFamily
  split <;> simp_all

theorem Tool.ofSubtype?_eq_none {subtype : String} (h : ∀ t : Tool, subtype ∉ t.spellings) :
    ofSubtype? subtype = none :=
  Option.eq_none_iff_forall_ne_some.2 fun t found => h t (ofSubtype?_eq_some.1 found)

theorem Kontext.ofSubtype?_eq_none {subtype : String} (h : ∀ k : Kontext, subtype ≠ k.name) :
    ofSubtype? subtype = none :=
  Option.eq_none_iff_forall_ne_some.2 fun k found => h k (ofSubtype?_eq_some.1 found)

theorem Family.Refuses.ofFamily {family : Family} {subtype : String} (h : family.Refuses subtype)
    (type : String) (polarity : Option String) :
    Role.ofFamily type polarity family subtype = .unsupported type := by
  cases h with
  | tool tools => rw [Role.ofFamily, Tool.ofSubtype?_eq_none tools]; rfl
  | kontext kontexts => rw [Role.ofFamily, Kontext.ofSubtype?_eq_none kontexts]; rfl
  | imageToImage given tools kontexts =>
    rw [Role.ofFamily_imageToImage polarity given, Tool.ofSubtype?_eq_none tools,
      Kontext.ofSubtype?_eq_none kontexts]
    rfl

namespace Node

variable {n : Node} {type subtype : String} {family : Family} {r : Role}

theorem typed_iff : n.Typed type ↔ type = n.typeString := by
  constructor
  · intro h
    cases h with
    | plain none => simp [typeString, none]
    | role role none => simp [typeString, role, none]
    | subtype role subtype => simp [typeString, role, subtype]
  · rintro rfl
    unfold typeString
    cases role : n.text? "role" with
    | none => exact .plain role
    | some =>
      cases subtype : n.text? "subtype" with
      | none => exact .role role subtype
      | some => exact .subtype role subtype

/-- What a node says of its polarity. -/
def polarity? (n : Node) : Option String :=
  (n.text? "polarity").map fun p => Text.lower (Text.trim p)

theorem sides_iff {p : Polarity} :
    n.Sides subtype p ↔
      p = if n.polarity?.getD subtype = "negative" then .negative else .positive := by
  constructor
  · intro h
    cases h with
    | negative own word => simp [polarity?, own, word]
    | positive own word => simp [polarity?, own, word]
    | negativeType none word => simp [polarity?, none, word]
    | positiveType none word => simp [polarity?, none, word]
  · rintro rfl
    cases own : n.text? "polarity" with
    | none =>
      by_cases word : subtype = "negative"
      · simpa [polarity?, own, word] using Sides.negativeType own rfl
      · simpa [polarity?, own, word] using Sides.positiveType own word
    | some polarity =>
      by_cases word : Text.lower (Text.trim polarity) = "negative"
      · simpa [polarity?, own, word] using Sides.negative own word
      · simpa [polarity?, own, word] using Sides.positive own word

theorem Takes.ofFamily (h : n.Takes family subtype r) (type : String) :
    Role.ofFamily type n.polarity? family subtype = r := by
  cases h with
  | engine | lora | output | imageSource | imageToImage => simp [Role.ofFamily]
  | controlNet spelt => simp [Role.ofFamily, Control.ofSubtype_of_mem spelt]
  | otherControl unspelt => simp [Role.ofFamily, Control.ofSubtype_of_unspelt unspelt]
  | prompt sides =>
    rw [sides_iff.1 sides, Role.ofFamily]
    split <;> rfl
  | tool spelt => simp [Role.ofFamily, Tool.ofSubtype?_eq_some.2 spelt]
  | kontext k => simp [Role.ofFamily, Kontext.ofSubtype?_eq_some.2 rfl]
  | @imageTool _ t spelt =>
    have given : subtype ≠ "" := by
      rintro rfl
      cases t <;> simp [Tool.spellings, Tool.name] at spelt
    simp [Role.ofFamily_imageToImage _ given, Tool.ofSubtype?_eq_some.2 spelt]
  | imageKontext k => cases k <;> rfl

theorem exists_takes (n : Node) (accepted : ¬ family.Refuses subtype) :
    ∃ r, n.Takes family subtype r := by
  cases family with
  | engine => exact ⟨_, .engine subtype⟩
  | lora => exact ⟨_, .lora subtype⟩
  | output => exact ⟨_, .output subtype⟩
  | imageSource => exact ⟨_, .imageSource subtype⟩
  | controlNet =>
    by_cases spelt : ∃ c : Control, subtype ∈ c.spellings
    · obtain ⟨c, spelt⟩ := spelt
      exact ⟨_, .controlNet spelt⟩
    · exact ⟨_, .otherControl (not_exists.1 spelt)⟩
  | prompt => exact ⟨_, .prompt (sides_iff.2 rfl)⟩
  | tool =>
    by_contra none
    exact accepted (.tool fun t spelt => none ⟨_, .tool spelt⟩)
  | kontext =>
    by_contra none
    refine accepted (.kontext ?_)
    rintro k rfl
    exact none ⟨_, .kontext k⟩
  | imageToImage =>
    by_contra none
    refine accepted (.imageToImage ?_ (fun t spelt => none ⟨_, .imageTool spelt⟩) ?_)
    · rintro rfl
      exact none ⟨_, .imageToImage⟩
    · rintro k rfl
      exact none ⟨_, .imageKontext k⟩

theorem Takes.plain (h : n.Takes family subtype r) :
    r ≠ .passThrough ∧ ∀ text, r ≠ .unsupported text := by
  cases h <;> simp

theorem role_of_none (h : Family.split? n.typeString = none) : n.role = .passThrough := by
  unfold role
  simp only [h]

theorem role_of_some (h : Family.split? n.typeString = some (family, subtype)) :
    n.role = Role.ofFamily n.typeString n.polarity? family subtype := by
  unfold role polarity?
  simp only [h]

/-- How a node's type string decides on its role. -/
theorem decides_typeString (n : Node) : n.Decides n.typeString n.role := by
  cases hs : Family.split? n.typeString with
  | none =>
    have unopened := Family.split?_eq_none.1 hs
    rw [role_of_none hs]
    refine ⟨iff_of_true rfl unopened, fun text => iff_of_false (by simp) ?_, ?_⟩
    · rintro ⟨-, _, _, _, chosen, -⟩
      exact unopened _ chosen.listed _ chosen.opens
    · intro _ _ _ chosen
      exact absurd chosen.opens (unopened _ chosen.listed _)
  | some found =>
    obtain ⟨family, subtype⟩ := found
    obtain ⟨start, chosen⟩ := Family.split?_eq_some.1 hs
    have role := role_of_some hs
    have one {start' family' subtype'} (h : Family.Chosen n.typeString start' family' subtype') :
        family' = family ∧ subtype' = subtype := by
      have same := (Family.split?_eq_some.2 ⟨start', h⟩).symm.trans hs
      simpa using same
    have opened : ¬ Family.Unopened n.typeString := fun h => h _ chosen.listed _ chosen.opens
    by_cases refused : family.Refuses subtype
    · rw [refused.ofFamily] at role
      rw [role]
      refine ⟨iff_of_false (by simp) opened, fun text => ?_, ?_⟩
      · rw [Role.unsupported.injEq, eq_comm]
        exact ⟨fun h => ⟨h, start, family, subtype, chosen, refused⟩, fun h => h.1⟩
      · intro _ _ _ other accepted
        obtain ⟨rfl, rfl⟩ := one other
        exact absurd refused accepted
    · obtain ⟨r, takes⟩ := n.exists_takes refused
      rw [takes.ofFamily] at role
      rw [role]
      refine ⟨iff_of_false takes.plain.1 opened, fun text => ?_, ?_⟩
      · refine iff_of_false (takes.plain.2 text) ?_
        rintro ⟨-, _, _, _, other, refuses⟩
        obtain ⟨rfl, rfl⟩ := one other
        exact refused refuses
      · intro _ _ _ other _ r'
        obtain ⟨rfl, rfl⟩ := one other
        refine ⟨fun h => ?_, fun h => h ▸ takes⟩
        rw [← h.ofFamily n.typeString, takes.ofFamily]

end Node

/-- A type string is split after the longest entry of the table that opens it, and not at all if
there is none. So the type string of a node settles its role: it passes through if nothing opens the
string, it is unsupported if its family has no role for the subtype, and otherwise it has the role
that its family takes with the subtype. -/
theorem classification (type : String) (n : Node) :
    (∀ family subtype, Family.split? type = some (family, subtype) ↔
      ∃ start, Family.Chosen type start family subtype) ∧
    (Family.split? type = none ↔ Family.Unopened type) ∧
    ∃ own, (∀ other, n.Typed other ↔ other = own) ∧ n.Decides own n.role :=
  ⟨fun _ _ => Family.split?_eq_some, Family.split?_eq_none, n.typeString, fun _ => Node.typed_iff,
    n.decides_typeString⟩

/-- The longest entry counts, and only one with a hyphen or nothing behind it. -/
example :
    Family.split? "image-source-old" = some (.imageSource, "old") ∧
      Family.split? "image-to" = some (.imageSource, "to") ∧ Family.split? "imagery" = none := by
  decide +kernel

end ImageGraph
