import ImageGraph.Proofs.Request.TextToImage

/-! How the parts of a request fail, each for its own reason and for no other. -/

namespace ImageGraph

/-- Case and outer blanks of a tag do not matter. -/
def Node.HasTag (tag : String) (n : Node) : Prop :=
  ∃ t, n.text? "tag" = some t ∧ Text.lower (Text.trim t) = Text.lower tag

theorem Node.any_tag {n : Node} {tag : String} :
    ((n.text? "tag").any fun t => Text.lower (Text.trim t) == Text.lower tag) = true ↔
      n.HasTag tag := by
  cases ht : n.text? "tag" <;> simp [HasTag, ht]

private theorem bind_eq_error {α β ε : Type} {x : Except ε α} {f : α → Except ε β} {e : ε} :
    x >>= f = .error e ↔ x = .error e ∨ ∃ a, x = .ok a ∧ f a = .error e := by
  cases x <;> simp [bind, Except.bind]

private theorem exists_eq_ok {α ε : Type} {x : Except ε α} :
    (∃ a, x = .ok a) ↔ ∀ e, x ≠ .error e := by
  cases x <;> simp

namespace Lineage

variable {l : Lineage} {e : CompileError}

theorem requireBase_eq_error {flow : String} :
    l.requireBase flow = .error e ↔ l.baseImage? = none ∧ e = .missingBaseImage flow := by
  cases hb : l.baseImage? <;> simp [requireBase, hb, eq_comm]

theorem exists_requireBase_eq_ok {flow : String} :
    (∃ image, l.requireBase flow = .ok image) ↔ l.baseImage? ≠ none := by
  simp [exists_eq_ok, requireBase_eq_error]

theorem toolStep_eq_error {n : Node} {params : Json.Object} {t : Tool} :
    l.toolStep n params t = .error e ↔
      t = .inpaint ∧ l.maskFor? n = none ∧ e = .missingMask := by
  cases t with
  | inpaint => cases hm : l.maskFor? n <;> simp [toolStep, hm, eq_comm]
  | _ => simp [toolStep]

theorem tool_eq_error {a : Classified} {t : Tool} (first : firstTool? l.ancestors = some (a, t)) :
    l.tool = .error e ↔
      l.baseImage? = none ∧ e = .missingBaseImage t.name ∨
        l.baseImage? ≠ none ∧ t = .inpaint ∧ l.maskFor? a.node = none ∧ e = .missingMask := by
  simp only [tool, first, bind_eq_error, requireBase_eq_error, toolStep_eq_error, pure,
    Except.pure, reduceCtorEq, and_false, exists_false, or_false]
  rw [exists_and_right, exists_requireBase_eq_ok]

/-- No candidate with a tag has an image. -/
def NoneTagged (l : Lineage) (tag : String) : Prop :=
  ∀ a ∈ l.candidates, a.node.HasTag tag → a.node.image? = none

theorem taggedImage_eq_error {tag : String} :
    l.taggedImage tag = .error e ↔ l.NoneTagged tag ∧ e = .missingTaggedImage tag := by
  have none : l.NoneTagged tag ↔ ((l.candidates.filter fun a => (a.node.text? "tag").any fun t =>
      Text.lower (Text.trim t) == Text.lower tag).findSome? fun a => a.node.image?) = none := by
    simp only [NoneTagged, List.findSome?_eq_none_iff, List.mem_filter, Node.any_tag, and_imp]
  rw [taggedImage, none]
  cases List.findSome? _ _ <;> simp [eq_comm]

theorem kontextStep_eq_error {n : Node} {k : Kontext} :
    l.kontextStep n k = .error e ↔
      match k with
      | .reference | .reangle => l.baseImage? = none ∧ e = .missingBaseImage k.name
      | .rescene =>
        l.NoneTagged "SCENE" ∧ e = .missingTaggedImage "SCENE" ∨
          ¬ l.NoneTagged "SCENE" ∧ l.NoneTagged "OBJECT" ∧ e = .missingTaggedImage "OBJECT"
      | .remix => l.adapters = [] ∧ e = .missingImages k.name := by
  cases k with
  | reference | reangle =>
    simp [kontextStep, bind_eq_error, requireBase_eq_error, pure, Except.pure]
  | rescene =>
    simp only [kontextStep, bind_eq_error, taggedImage_eq_error, pure, Except.pure, reduceCtorEq,
      and_false, exists_false, or_false]
    rw [exists_and_right, exists_eq_ok]
    simp [taggedImage_eq_error]
  | remix =>
    cases ha : l.adapters <;> simp [kontextStep, ha, Json.nonempty?, eq_comm]

theorem kontext_eq_error {a : Classified} {k : Kontext}
    (first : firstKontext? l.ancestors = some (a, k)) :
    l.kontext = .error e ↔ l.kontextStep a.node k = .error e := by
  simp only [kontext, first]
  cases l.kontextStep a.node k <;> simp [Except.map]

theorem contribution_eq_error {n : Node} {c : Control} (seed : c ≠ .lights) :
    l.contribution n c = .error e ↔
      ∃ name, c = .other name ∧ e = .unsupportedSubtype n.id name := by
  cases c with
  | lights => exact absurd rfl seed
  | other name => simp [contribution, Control.model?, Control.name, eq_comm]
  | _ => simp only [contribution, Control.model?, Control.preprocessor?]; split <;> simp

theorem contributions_cons_eq_error {p : Node × Control} {rest : List (Node × Control)} :
    l.contributions (p :: rest) = .error e ↔
      l.contribution p.1 p.2 = .error e ∨
        (∀ e, l.contribution p.1 p.2 ≠ .error e) ∧ l.contributions rest = .error e := by
  rw [← exists_eq_ok, contributions, List.mapM_cons, bind_eq_error, ← contributions]
  simp only [bind_eq_error, pure, Except.pure, reduceCtorEq, and_false, exists_false, or_false,
    exists_and_right]

theorem textToImage_eq_error :
    l.textToImage = .error e ↔ l.contributions l.controls = .error e := by
  rw [textToImage_eq]
  cases l.contributions l.controls <;> simp [Except.map]

theorem imageToImage_eq_error :
    l.imageToImage = .error e ↔
      l.baseImage? = none ∧ e = .missingBaseImage Flow.imageToImage.name := by
  cases hb : l.baseImage? <;> simp [imageToImage, hb, eq_comm]

end Lineage

end ImageGraph
