import ImageGraph.Proofs.Graph.Attribute
import ImageGraph.Proofs.Role.Classification
import ImageGraph.Proofs.Text.Spelling

/-! Roles written back as type strings or as attributes. Classification reads a role that it can
come to off either form. -/

namespace ImageGraph

/-- Small letters and no blanks at either end: the form in which type strings are compared. -/
def Text.Normal (s : String) : Prop :=
  lower (trim s) = s

instance (s : String) : Decidable (Text.Normal s) :=
  inferInstanceAs (Decidable (Text.lower (Text.trim s) = s))

namespace Role

/-- The role that a type string stands for; `polarity` is what a prompt says of itself. -/
def ofType (type : String) (polarity : Option String) : Role :=
  match Family.split? type with
  | none => passThrough
  | some (family, subtype) => ofFamily type polarity family subtype

/-- The texts of a role are as classification leaves them. The name of a control may begin with
blanks, since a hyphen stands in front of it. -/
structure Canonical (r : Role) : Prop where
  control : ∀ name, r = controlNet (.other name) →
    Text.lower name = name ∧ (∀ c ∈ name.toList.getLast?, Text.isBlank c = false) ∧
      Control.ofSubtype name = .other name
  type : ∀ type, r = unsupported type →
    Text.Normal type ∧ ∃ family subtype,
      Family.split? type = some (family, subtype) ∧ family.Refuses subtype

/-- The type string that a node has whose attributes name the role. -/
def attributeString (r : Role) : String :=
  match r.subtype? with
  | some subtype => if Text.allBlank subtype then r.name else r.name ++ "-" ++ subtype
  | none => r.name

end Role

namespace Node

/-- A node whose type alone says what it is for. -/
structure Bare (n : Node) (type : String) : Prop where
  kind : n.kind = type
  role : n.text? "role" = none
  polarity : n.text? "polarity" = none

/-- A node whose attributes say that it has a role, whatever its type. -/
structure Declares (n : Node) (r : Role) : Prop where
  role : n.attribute? "role" = some (.str r.name)
  subtype : n.attribute? "subtype" = r.subtype?.map .str
  polarity : n.text? "polarity" = none

end Node

/-! ### Normal texts -/

namespace Text

variable {s : String}

theorem trim_trim (s : String) : trim (trim s) = trim s :=
  (trimmed_trim s).trim_eq

theorem normal_lower_trim (s : String) : Normal (lower (trim s)) := by
  rw [Normal, trim_lower, trim_trim, lower_lower]

theorem normal_iff : Normal s ↔ lower s = s ∧ Trimmed s.toList := by
  constructor
  · intro h
    have trimmed : trim s = s := by
      rw [← h, trim_lower, trim_trim]
    refine ⟨?_, trimmed ▸ trimmed_trim s⟩
    rw [← h, lower_lower]
  · rintro ⟨small, trimmed⟩
    rw [Normal, trimmed.trim_eq, small]

theorem lower_eq_iff : lower s = s ↔ ∀ c ∈ s.toList, c.toLower = c := by
  rw [← String.toList_inj, lower, String.toList_ofList]
  simpa using List.map_inj_left (f := Char.toLower) (g := id) (l := s.toList)

theorem eq_empty_of_allBlank (blank : allBlank s = true)
    (last : ∀ c ∈ s.toList.getLast?, isBlank c = false) : s = "" := by
  cases h : s.toList.getLast? with
  | none => exact String.toList_inj.1 (List.getLast?_eq_none_iff.1 h)
  | some c =>
    have shown := last c h
    rw [List.all_eq_true.1 blank c (List.mem_of_getLast? h)] at shown
    cases shown

/-- The end of a normal text is in small letters and has no blank at its own end. -/
theorem Normal.suffix {start : String} (h : Normal (start ++ s)) :
    lower s = s ∧ ∀ c ∈ s.toList.getLast?, isBlank c = false := by
  obtain ⟨small, trimmed⟩ := normal_iff.1 h
  rw [lower_eq_iff, String.toList_append] at small
  refine ⟨lower_eq_iff.2 fun c hc => small c (List.mem_append_right _ hc), fun c hc => ?_⟩
  refine trimmed.last c ?_
  rw [String.toList_append, List.getLast?_append, hc]
  rfl

end Text

/-! ### Roles that classification comes to -/

theorem Control.eq_of_ofSubtype_eq_other {subtype name : String}
    (h : Control.ofSubtype subtype = .other name) : name = subtype := by
  obtain spelt | own := Control.mem_spellings_or_other subtype
  · rw [h] at spelt
    cases spelt
  · exact Control.other.inj (h.symm.trans own)

theorem Role.canonical_controlNet {type start subtype : String} (normal : Text.Normal type)
    (opens : Family.Opens start type subtype) :
    (controlNet (.ofSubtype subtype)).Canonical := by
  refine ⟨fun name other => ?_, nofun⟩
  have other := controlNet.inj other
  obtain rfl := Control.eq_of_ofSubtype_eq_other other
  cases opens with
  | alone => exact ⟨rfl, by simp, other⟩
  | joined =>
    obtain ⟨small, last⟩ := normal.suffix
    exact ⟨small, last, other⟩

namespace Node

variable {n : Node} {r : Role}

theorem normal_typeString (n : Node) : Text.Normal n.typeString :=
  Text.normal_lower_trim _

theorem role_eq_ofType (n : Node) : n.role = .ofType n.typeString n.polarity? := by
  cases split : Family.split? n.typeString with
  | none => simp only [role_of_none split, Role.ofType, split]
  | some found => simp only [role_of_some split, Role.ofType, split]

theorem canonical_role (n : Node) : n.role.Canonical := by
  cases split : Family.split? n.typeString with
  | none =>
    rw [role_of_none split]
    exact ⟨nofun, nofun⟩
  | some found =>
    obtain ⟨family, subtype⟩ := found
    rw [role_of_some split]
    by_cases refused : family.Refuses subtype
    · rw [refused.ofFamily]
      refine ⟨nofun, fun type own => ?_⟩
      rw [← Role.unsupported.inj own]
      exact ⟨n.normal_typeString, family, subtype, split, refused⟩
    · obtain ⟨r, takes⟩ := n.exists_takes refused
      rw [takes.ofFamily]
      obtain ⟨start, chosen⟩ := Family.split?_eq_some.1 split
      have control := Role.canonical_controlNet n.normal_typeString chosen.opens
      cases takes with
      | controlNet spelt => rwa [Control.ofSubtype_of_mem spelt] at control
      | otherControl unspelt => rwa [Control.ofSubtype_of_unspelt unspelt] at control
      | engine | lora | output | imageSource | prompt | tool | kontext | imageToImage | imageTool
      | imageKontext => exact ⟨nofun, nofun⟩

end Node

/-! ### Type strings of roles -/

namespace Family

theorem split?_controlNet (name : String) :
    split? ("control-net" ++ "-" ++ name) = some (.controlNet, name) := by
  simp [split?, starts, subtypeAfter?, Text.dropStart?]

end Family

namespace Role

variable {r : Role}

theorem filled_name (r : Role) : Text.allBlank r.name = false := by
  unfold name
  split <;> decide +kernel

theorem normal_controlNet {name : String} (small : Text.lower name = name)
    (last : ∀ c ∈ name.toList.getLast?, Text.isBlank c = false) :
    Text.Normal ("control-net" ++ "-" ++ name) := by
  have start : Text.Normal ("control-net" ++ "-") := by decide +kernel
  obtain ⟨startSmall, startTrimmed⟩ := Text.normal_iff.1 start
  refine Text.normal_iff.2 ⟨by rw [Text.lower_append, startSmall, small], ?_, ?_⟩
  · intro c hc
    refine startTrimmed.head c ?_
    rwa [String.toList_append, List.head?_append] at hc
  · intro c hc
    rw [String.toList_append, List.getLast?_append] at hc
    cases h : name.toList.getLast? with
    | none => exact startTrimmed.last c (by rwa [h] at hc)
    | some d => exact last c (by rwa [h] at hc ⊢)

theorem ofType_controlNet {name : String} (other : Control.ofSubtype name = .other name) :
    ofType ("control-net" ++ "-" ++ name) none = controlNet (.other name) := by
  rw [ofType, Family.split?_controlNet]
  exact congrArg controlNet other

/-- The type string of a role is in the normal form and stands for the role. -/
theorem Canonical.typeString (h : r.Canonical) :
    Text.Normal r.typeString ∧ ofType r.typeString none = r := by
  cases r with
  | controlNet c =>
    cases c with
    | other name =>
      obtain ⟨small, last, other⟩ := h.control name rfl
      exact ⟨normal_controlNet small last, ofType_controlNet other⟩
    | pose | depth | canny | lineart | scribble | segmentation | lights => decide +kernel
  | unsupported type =>
    obtain ⟨normal, family, subtype, split, refused⟩ := h.type type rfl
    refine ⟨normal, ?_⟩
    simp only [Role.typeString, ofType, split]
    exact refused.ofFamily type none
  | prompt p => cases p <;> decide +kernel
  | tool t => cases t <;> decide +kernel
  | kontext k => cases k <;> decide +kernel
  | engine | lora | imageToImage | imageSource | output | passThrough => decide +kernel

/-- The attributes of a role make up its type string, except that a positive prompt says so and a
control without a name says nothing. -/
theorem Canonical.attributeString_cases (h : r.Canonical)
    (supported : ∀ type, r ≠ .unsupported type) :
    r.attributeString = r.typeString ∨ r = prompt .positive ∨ r = controlNet (.other "") := by
  cases r with
  | controlNet c =>
    cases c with
    | other name =>
      cases blank : Text.allBlank name with
      | true =>
        obtain rfl := Text.eq_empty_of_allBlank blank (h.control name rfl).2.1
        exact .inr (.inr rfl)
      | false =>
        left
        simp only [attributeString, subtype?, Control.name, blank]
        rfl
    | pose | depth | canny | lineart | scribble | segmentation | lights => exact .inl rfl
  | prompt p =>
    cases p with
    | positive => exact .inr (.inl rfl)
    | negative => exact .inl rfl
  | tool t => cases t <;> exact .inl rfl
  | kontext k => cases k <;> exact .inl rfl
  | unsupported type => exact absurd rfl (supported type)
  | engine | lora | imageToImage | imageSource | output | passThrough => exact .inl rfl

/-- Unless its type is unsupported, the attributes of a role stand for it too. -/
theorem Canonical.attributeString (h : r.Canonical) (supported : ∀ type, r ≠ .unsupported type) :
    Text.Normal r.attributeString ∧ ofType r.attributeString none = r := by
  obtain same | rfl | rfl := h.attributeString_cases supported
  · rw [same]
    exact h.typeString
  · decide +kernel
  · decide +kernel

end Role

/-! ### Nodes that are given a role -/

namespace Node

variable {n : Node} {r : Role}

theorem role_of_normal {type : String} (normal : Text.Normal type)
    (own : n.typeString = Text.lower (Text.trim type)) (polarity : n.text? "polarity" = none) :
    n.role = .ofType type none := by
  rw [role_eq_ofType, own, normal, polarity?, polarity]
  rfl

theorem Bare.typeString {type : String} (h : n.Bare type) :
    n.typeString = Text.lower (Text.trim type) := by
  rw [Node.typeString, h.role, h.kind]

theorem Declares.typeString (h : n.Declares r) :
    n.typeString = Text.lower (Text.trim r.attributeString) := by
  have role : n.text? "role" = some r.name := by
    simp [text?_of_attribute? h.role, r.filled_name]
  have given := h.subtype
  rw [Node.typeString, role, Role.attributeString]
  cases own : r.subtype? with
  | none =>
    rw [own] at given
    simp [text?, given]
  | some subtype =>
    rw [own, Option.map_some] at given
    rw [text?_of_attribute? given]
    cases blank : Text.allBlank subtype <;> simp [blank]

end Node

/-- Classification comes to the roles whose texts are canonical. Each of them is taken again by a
bare node of its type string, and unless its type is unsupported also by any node that declares it
by attributes. -/
theorem role_reencoded (r : Role) :
    ((∃ n : Node, n.role = r) ↔ r.Canonical) ∧
    (r.Canonical → (∀ n : Node, n.Bare r.typeString → n.role = r) ∧
      ((∀ type, r ≠ .unsupported type) → ∀ n : Node, n.Declares r → n.role = r)) := by
  have bare (canonical : r.Canonical) (n : Node) (h : n.Bare r.typeString) : n.role = r := by
    obtain ⟨normal, same⟩ := canonical.typeString
    rw [n.role_of_normal normal h.typeString h.polarity, same]
  refine ⟨⟨?_, fun canonical => ?_⟩, fun canonical => ⟨bare canonical, ?_⟩⟩
  · rintro ⟨n, rfl⟩
    exact n.canonical_role
  · exact ⟨⟨"n", r.typeString, .obj []⟩, bare canonical _ ⟨rfl, rfl, rfl⟩⟩
  · intro supported n h
    obtain ⟨normal, same⟩ := canonical.attributeString supported
    rw [n.role_of_normal normal h.typeString h.polarity, same]

/-- A control of no known kind, with a blank in front of its name. -/
theorem role_reencoded_other :
    let r : Role := .controlNet (.other " line art")
    let n : Node := ⟨"n", "ControlNet- Line Art ", .obj []⟩
    let bare : Node := ⟨"n", "control-net- line art", .obj []⟩
    let declaring : Node := ⟨"n", "prompt",
      .obj [("role", .str "control-net"), ("subtype", .str " line art")]⟩
    (n.role = r ∧ r.Canonical ∧ bare.Bare r.typeString ∧ declaring.Declares r) ∧
      bare.role = r ∧ declaring.role = r := by
  intro r n bare declaring
  have own : n.role = r := by decide +kernel
  obtain ⟨reached, again⟩ := role_reencoded r
  have canonical := reached.1 ⟨n, own⟩
  have isBare : bare.Bare r.typeString := ⟨by decide +kernel, rfl, rfl⟩
  have declares : declaring.Declares r := ⟨rfl, rfl, rfl⟩
  obtain ⟨ofType, ofAttributes⟩ := again canonical
  exact ⟨⟨own, canonical, isBare, declares⟩, ofType bare isBare,
    ofAttributes (by simp [r]) declaring declares⟩

end ImageGraph
