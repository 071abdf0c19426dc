import ImageGraph.Proofs.Request.Gathering
import ImageGraph.Proofs.Request.Signature

/-! The prompts of a request. A call that generates carries the texts of the prompts of either
polarity in one piece, a blank line between them, and leaves a negative prompt out that is shorter
than the service accepts. -/

namespace ImageGraph

open Json

/-- A prompt of a polarity with a text, which counts without the blanks around it. -/
structure Node.Prompts (p : Polarity) (n : Node) (t : String) : Prop where
  role : n.role = .prompt p
  text : ∃ s, n.attribute? "text" = some (.str s) ∧ Text.allBlank s = false ∧ t = Text.trim s

/-- What the prompts of a polarity come to: their texts in the order of the nodes, with a blank line
between one and the next. There is a prompt only where there is a text. -/
structure Joined (p : Polarity) (found : List Node) (s : String) : Prop where
  spoken : ∃ n ∈ found, ∃ t, n.Prompts p t
  joined : ∃ texts, Gathers (Node.Prompts p) found texts ∧ s = "\n\n".intercalate texts

/-- The prompts in the parameters of a call of a flow. -/
structure Prompted (settings : Settings) (found : List Node) (flow : Flow)
    (params : Object) : Prop where
  positive : ∀ v, params.get? "positivePrompt" = some v ↔ flow.Generates ∧
    ∃ s, Joined .positive found s ∧ v = .str s
  negative : ∀ v, params.get? "negativePrompt" = some v ↔ flow.Generates ∧
    ∃ s, Joined .negative found s ∧ settings.minNegativePromptLen.toNat ≤ s.length ∧ v = .str s
  joins : ∀ p, (∃ n ∈ found, ∃ t, n.Prompts p t) → ∃ s, ∀ t, Joined p found t ↔ t = s
  trimmed : ∀ key ∈ ["positivePrompt", "negativePrompt"], ∀ v, params.get? key = some v →
    ∃ s, v = .str s ∧ Text.Trimmed s.toList

namespace Lineage

variable {l : Lineage} {found : List Node} {p : Polarity} {s : String}

section

variable (hl : l.ancestors = found.map Node.classify)
include hl

theorem gathers_texts {texts : List String} :
    Gathers (Node.Prompts p) found texts ↔ texts = (l.texts p).map Text.trim := by
  let read (n : Node) : Option String :=
    if n.role = .prompt p then (n.text? "text").map Text.trim else none
  have all : (l.texts p).map Text.trim = found.filterMap read := by
    rw [Lineage.texts, withRole_eq hl, List.filterMap_map, List.filterMap_filter,
      List.map_filterMap]
    refine congrArg (List.filterMap · found) (funext fun n => ?_)
    by_cases role : n.role = .prompt p <;> simp [read, Node.classify, role]
  rw [all]
  refine gathers_iff fun n _ t => ?_
  simp only [read, Option.ite_none_right_eq_some, Option.map_eq_some_iff, Node.text?_eq_some]
  constructor
  · rintro ⟨role, s, there, filled, rfl⟩
    exact ⟨role, s, ⟨there, filled⟩, rfl⟩
  · rintro ⟨role, s, ⟨there, filled⟩, rfl⟩
    exact ⟨role, s, there, filled, rfl⟩

theorem prompt?_eq_some : l.prompt? p = some s ↔ Joined p found s := by
  have gathered := (gathers_texts (p := p) hl).2 rfl
  have spoken := gathered.ne_nil_iff
  rw [ne_eq, List.map_eq_nil_iff] at spoken
  rw [prompt?_eq, Option.ite_none_left_eq_some, spoken, Option.some.injEq]
  constructor
  · rintro ⟨spoken, rfl⟩
    exact ⟨spoken, _, gathered, rfl⟩
  · rintro ⟨spoken, texts, given, rfl⟩
    rw [(gathers_texts hl).1 given]
    exact ⟨spoken, rfl⟩

/-- Texts join in one way. -/
theorem joined_unique (spoken : ∃ n ∈ found, ∃ t, n.Prompts p t) :
    ∃ s, ∀ t, Joined p found t ↔ t = s := by
  refine ⟨"\n\n".intercalate ((l.texts p).map Text.trim), fun t => ⟨?_, ?_⟩⟩
  · rintro ⟨-, texts, given, rfl⟩
    rw [(gathers_texts hl).1 given]
  · rintro rfl
    exact ⟨spoken, _, (gathers_texts hl).2 rfl, rfl⟩

end

theorem trimmed_of_prompt? (h : l.prompt? p = some s) : Text.Trimmed s.toList := by
  rw [prompt?_eq, Option.ite_none_left_eq_some] at h
  obtain ⟨some, ⟨⟩⟩ := h
  rw [← Text.trim_intercalate "\n\n" (fun _ => filled_of_mem_texts) some]
  exact Text.trimmed_trim _

/-- Nothing is trimmed off a join, so a negative prompt is as long as it is shown. -/
theorem negativePrompt?_eq_some :
    l.negativePrompt? = some s ↔
      l.prompt? .negative = some s ∧ l.settings.minNegativePromptLen.toNat ≤ s.length := by
  rw [negativePrompt?, Option.filter_eq_some_iff]
  refine and_congr_right fun h => ?_
  rw [(trimmed_of_prompt? h).trim_eq, decide_eq_true_iff]

theorem request_prompted {r : Request} (ok : l.request = .ok r)
    (hl : l.ancestors = found.map Node.classify) :
    Prompted l.settings found r.flow r.main.params := by
  have positive (v : Json) : r.main.params.get? "positivePrompt" = some v ↔ r.flow.Generates ∧
      ∃ s, Joined .positive found s ∧ v = .str s := by
    have own : l.generativeParams.get? "positivePrompt" = (l.prompt? .positive).map .str := by
      simp [generativeParams]
    rw [request_generative ok (by simp), own, Option.ite_none_right_eq_some,
      Option.map_eq_some_iff]
    simp only [prompt?_eq_some hl, @eq_comm _ v]
  have negative (v : Json) : r.main.params.get? "negativePrompt" = some v ↔ r.flow.Generates ∧
      ∃ s, Joined .negative found s ∧ l.settings.minNegativePromptLen.toNat ≤ s.length ∧
        v = .str s := by
    have own : l.generativeParams.get? "negativePrompt" = l.negativePrompt?.map .str := by
      simp [generativeParams]
    rw [request_generative ok (by simp), own, Option.ite_none_right_eq_some,
      Option.map_eq_some_iff]
    simp only [negativePrompt?_eq_some, prompt?_eq_some hl, and_assoc, @eq_comm _ v]
  refine ⟨positive, negative, fun p => joined_unique hl, fun key hk v there => ?_⟩
  simp only [List.mem_cons, List.not_mem_nil, or_false] at hk
  obtain rfl | rfl := hk
  · obtain ⟨-, s, joined, rfl⟩ := (positive v).1 there
    exact ⟨s, rfl, trimmed_of_prompt? ((prompt?_eq_some hl).2 joined)⟩
  · obtain ⟨-, s, joined, -, rfl⟩ := (negative v).1 there
    exact ⟨s, rfl, trimmed_of_prompt? ((prompt?_eq_some hl).2 joined)⟩

end Lineage

section

variable {settings : Settings} {nodes : List Node} {edges : List Edge} {target : NodeId}

/-- A request has a positive or a negative prompt just if it generates an image and there is a text
of that polarity among the ancestors. The prompt joins all of them, has no blanks at its ends and,
if it is negative, is as long as the service asks for. -/
theorem compile_prompts {r : Request} (ok : compile settings nodes edges target = .ok r) :
    Prompted settings (ancestors nodes edges target) r.flow r.main.params :=
  Lineage.request_prompted (compile_eq_ok.1 ok).2 rfl

/-- Three negative texts, one of them blank, by either way to give the polarity; without a blank
line in between they would be too short. -/
theorem compile_prompts_negative :
    let nodes : List Node := [⟨"out", "output", .null⟩,
      ⟨"a", "prompt-negative", .obj [("text", .str " a\n")]⟩,
      ⟨"b", "prompt-negative", .obj [("text", .str "\t")]⟩,
      ⟨"c", "prompt", .obj [("polarity", .str "negative"), ("text", .str "\u2003b")]⟩]
    let edges : List Edge := nodes.map fun n => ⟨n.id, n.id, "out"⟩
    let settings : Settings := { minNegativePromptLen := 4 }
    ∃ r, compile settings nodes edges "out" = .ok r ∧
      Prompted settings (ancestors nodes edges "out") r.flow r.main.params ∧
      r.main.params.get? "negativePrompt" = some (.str "a\n\nb") ∧
      r.main.params.get? "positivePrompt" = none := by
  intro nodes edges settings
  have shape : (compile settings nodes edges "out").toOption.map (fun r =>
      ((r.main.params.get? "negativePrompt").bind string?,
        (r.main.params.get? "positivePrompt").isSome)) = some (some "a\n\nb", false) := by
    decide +kernel
  obtain ⟨r, ok, read⟩ := exists_ok_of_map shape
  simp only [Prod.mk.injEq] at read
  obtain ⟨negative, positive⟩ := read
  exact ⟨r, ok, compile_prompts ok, bind_string?_eq_some.1 negative, by simpa using positive⟩

end

end ImageGraph
