import ImageGraph.Proofs.Role.Canonical

/-! Roles and spelling. The case of letters and the blanks around what a node says of its role do
not count, except for blanks that come to stand between a role and its subtype. -/

namespace ImageGraph

/-- An attribute is as it was, or a text that is spelt in another way. -/
inductive AttributeRespelled : Option Json → Option Json → Prop where
  | same (value : Option Json) : AttributeRespelled value value
  | text {s t : String} : Text.Respelled s t → AttributeRespelled (some (.str s)) (some (.str t))

namespace Node

/-- A node whose type and attributes are spelt in another way, as far as its role rests on them. -/
structure Respelled (n m : Node) : Prop where
  kind : Text.Respelled n.kind m.kind
  attributes : ∀ key ∈ ["role", "subtype", "polarity"],
    AttributeRespelled (n.attribute? key) (m.attribute? key)

/-- What stands between the role and the subtype of a node that gives both: the blanks behind the
one and in front of the other, and the hyphen. -/
def joint? (n : Node) : Option String :=
  match n.text? "role", n.text? "subtype" with
  | some role, some subtype => some (Text.trailing role ++ "-" ++ Text.leading subtype)
  | _, _ => none

end Node

/-! ### What is read of a node -/

namespace Text

theorem respelled_refl (s : String) : Respelled s s :=
  ⟨"", s, "", rfl, rfl, rfl, by simp⟩

/-- Between texts that are not blank, trimming leaves the blanks where they are. -/
theorem trim_joined {s t : String} (hs : allBlank s = false) (ht : allBlank t = false)
    (mark : String) :
    trim (s ++ mark ++ t) = trim s ++ (trailing s ++ mark ++ leading t) ++ trim t := by
  have inner : Trimmed (trim s ++ (trailing s ++ mark ++ leading t) ++ trim t).toList := by
    rw [String.toList_append, String.toList_append]
    exact (trimmed_trim s).append (trimmed_trim t) (trim_ne_nil hs) (trim_ne_nil ht) _
  have whole : s ++ mark ++ t =
      leading s ++ (trim s ++ (trailing s ++ mark ++ leading t) ++ trim t) ++ trailing t := by
    conv_lhs =>
      rw [← leading_append_trim_append_trailing s, ← leading_append_trim_append_trailing t]
    simp only [String.append_assoc]
  rw [whole, trim_around (allBlank_leading s) (allBlank_trailing t), inner.trim_eq]

end Text

theorem AttributeRespelled.text? {n m : Node} {key : String}
    (h : AttributeRespelled (n.attribute? key) (m.attribute? key)) :
    (n.text? key = none ∧ m.text? key = none) ∨
      ∃ s t, n.text? key = some s ∧ m.text? key = some t ∧ Text.Respelled s t := by
  generalize hn : n.attribute? key = value, hm : m.attribute? key = value' at h
  cases h with
  | same =>
    have alike : m.text? key = n.text? key := by
      rw [Node.text?, Node.text?, hn, hm]
    rw [alike]
    cases n.text? key with
    | none => exact .inl ⟨rfl, rfl⟩
    | some s => exact .inr ⟨s, s, rfl, rfl, Text.respelled_refl s⟩
  | @text s t spelling =>
    rw [n.text?_of_attribute? hn, m.text?_of_attribute? hm, spelling.allBlank_eq]
    split
    · exact .inl ⟨rfl, rfl⟩
    · exact .inr ⟨s, t, rfl, rfl, spelling⟩

namespace Node

variable {n m : Node}

/-- The joint stands in the type string as it is, between the role and the subtype in the normal
form. -/
theorem typeString_joined {role subtype : String} (hr : n.text? "role" = some role)
    (hs : n.text? "subtype" = some subtype) :
    n.typeString = Text.lower (Text.trim role) ++
      (Text.trailing role ++ "-" ++ Text.leading subtype) ++ Text.lower (Text.trim subtype) := by
  have hyphen : Text.lower "-" = "-" := by decide +kernel
  simp only [typeString, hr, hs, Text.trim_joined (filled_of_text? hr) (filled_of_text? hs),
    Text.lower_append, hyphen, Text.lower_of_allBlank (Text.allBlank_leading subtype),
    Text.lower_of_allBlank (Text.allBlank_trailing role)]

namespace Respelled

theorem polarity? (h : n.Respelled m) : m.polarity? = n.polarity? := by
  unfold Node.polarity?
  obtain ⟨none, none'⟩ | ⟨s, t, hs, ht, spelling⟩ := (h.attributes "polarity" (by simp)).text?
  · rw [none, none']
  · rw [hs, ht, Option.map_some, Option.map_some, spelling.lower_trim]

/-- The type string changes just if the joint does. -/
theorem typeString_iff (h : n.Respelled m) :
    m.typeString = n.typeString ↔ m.joint? = n.joint? := by
  obtain ⟨hr, hr'⟩ | ⟨r, r', hr, hr', role⟩ := (h.attributes "role" (by simp)).text?
  · refine iff_of_true ?_ (by simp [joint?, hr, hr'])
    simp only [typeString, hr, hr', h.kind.lower_trim]
  obtain ⟨hs, hs'⟩ | ⟨s, s', hs, hs', subtype⟩ := (h.attributes "subtype" (by simp)).text?
  · refine iff_of_true ?_ (by simp [joint?, hs, hs'])
    simp only [typeString, hr, hr', hs, hs', role.lower_trim]
  · rw [typeString_joined hr hs, typeString_joined hr' hs', role.lower_trim, subtype.lower_trim]
    simp only [joint?, hr, hr', hs, hs', Option.some.injEq, String.append_left_inj,
      String.append_right_inj]

end Respelled

end Node

/-- The role of a node does not depend on the case of letters, nor on the blanks around its type or
what it says of its polarity. Blanks around its role and subtype do not matter either, except for
those between the two: just if these change, the node goes by another type string. -/
theorem role_respelled {n m : Node} (h : n.Respelled m) :
    (m.joint? = n.joint? → m.role = n.role) ∧
      (m.typeString = n.typeString ↔ m.joint? = n.joint?) := by
  refine ⟨fun joint => ?_, h.typeString_iff⟩
  rw [m.role_eq_ofType, n.role_eq_ofType, h.typeString_iff.2 joint, h.polarity?]

/-- Capitals, a tab and spaces around a role and its subtype. -/
theorem role_respelled_prompt :
    let n : Node := ⟨"n", "note", .obj [("role", .str "prompt"), ("subtype", .str "negative")]⟩
    let m : Node := ⟨"n", " Note", .obj [("role", .str " PROMPT"), ("subtype", .str "Negative\t ")]⟩
    (n.Respelled m ∧ m.joint? = n.joint?) ∧ m.role = n.role ∧ n.role = .prompt .negative := by
  intro n m
  have respelled : n.Respelled m := by
    refine ⟨⟨" ", "Note", "", by decide +kernel⟩, fun key hk => ?_⟩
    simp only [List.mem_cons, List.not_mem_nil, or_false] at hk
    obtain rfl | rfl | rfl := hk
    · exact .text ⟨" ", "PROMPT", "", by decide +kernel⟩
    · exact .text ⟨"", "Negative", "\t ", by decide +kernel⟩
    · exact .same none
  have joint : m.joint? = n.joint? := by decide +kernel
  exact ⟨⟨respelled, joint⟩, (role_respelled respelled).1 joint, by decide +kernel⟩

/-- A blank in front of the subtype makes another control of it, and one behind the role makes it no
role at all. -/
theorem blank_in_joint :
    let n : Node := ⟨"n", "note", .obj [("role", .str "control-net"), ("subtype", .str "pose")]⟩
    let m : Node := ⟨"n", "note", .obj [("role", .str "control-net"), ("subtype", .str " pose")]⟩
    let l : Node := ⟨"n", "note", .obj [("role", .str "control-net "), ("subtype", .str "pose")]⟩
    (n.Respelled m ∧ n.Respelled l) ∧ n.role = .controlNet .pose ∧
      m.role = .controlNet (.other " pose") ∧ l.role = .passThrough := by
  intro n m l
  refine ⟨⟨⟨Text.respelled_refl _, fun key hk => ?_⟩, Text.respelled_refl _, fun key hk => ?_⟩,
    by decide +kernel⟩
  all_goals
    simp only [List.mem_cons, List.not_mem_nil, or_false] at hk
    obtain rfl | rfl | rfl := hk
  · exact .same _
  · exact .text ⟨" ", "pose", "", by decide +kernel⟩
  · exact .same none
  · exact .text ⟨"", "control-net", " ", by decide +kernel⟩
  · exact .same _
  · exact .same none

end ImageGraph
