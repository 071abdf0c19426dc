import ImageGraph.Client.Reply
import ImageGraph.Proofs.Graph.Attribute
import ImageGraph.Proofs.Request.Rerun

/-! Guides from the answer of the service to the next request. An accepted guide is written onto the
node of its step, and a request made then has an entry with it in place of the step. A blank guide
is accepted too, but its node still counts as one without a guide. -/

namespace ImageGraph

open Json

/-! ### One step answered -/

namespace Lineage

variable {l : Lineage} {controls : List (Node × Control)} {found : List Contribution}

/-- What a node with a step contributes once a guide is written onto it. -/
def answered (s : PreprocessStep) (url : String) : Contribution :=
  if Text.allBlank url then .step s else .entry (s.entry url)

theorem contribution_answered {n : Node} {c : Control} {s : PreprocessStep}
    (h : l.contribution n c = .ok (.step s)) (url : String) :
    l.contribution (n.withGuide url) c = .ok (answered s url) := by
  cases blank : Text.allBlank url with
  | false => simpa [answered, blank] using contribution_withGuide h blank
  | true =>
    have unguided : (n.withGuide url).text? "guideUrl" = n.text? "guideUrl" := by
      rw [unguided_of_contribution h,
        Node.text?_of_attribute? ((n.attribute?_withGuide url _).trans (if_pos rfl)), blank]
      rfl
    have alike : (n.withGuide url).AgreeOn promptKeys n :=
      n.withGuide_agrees (by simp [promptKeys]) url
    have strength : (n.withGuide url).number? "strength" = n.number? "strength" :=
      alike.number? (by simp [promptKeys])
    have image : (n.withGuide url).image? = n.image? :=
      alike.image? (by simp [promptKeys]) (by simp [promptKeys])
    have same : l.contribution (n.withGuide url) c = l.contribution n c := by
      rw [contribution, unguided, strength, image]
      rfl
    simpa [answered, blank] using same.trans h

theorem guidedControls_nil (controls : List (Node × Control)) :
    guidedControls [] controls = controls :=
  List.map_id _

/-- A guide for one step changes what its node contributes and nothing else. -/
theorem contributions_answered (once : (controls.map fun p => p.1.id).Nodup)
    (h : l.contributions controls = .ok found) {s : PreprocessStep} (hs : .step s ∈ found)
    (url : String) :
    ∃ before after, found = before ++ .step s :: after ∧
      l.contributions (guidedControls [(s.nodeId, url)] controls) =
        .ok (before ++ answered s url :: after) := by
  induction controls generalizing found with
  | nil =>
    cases h
    cases hs
  | cons p rest ih =>
    obtain ⟨n, c⟩ := p
    obtain ⟨first, later, hf, hr, rfl⟩ := contributions_cons_eq_ok.1 h
    obtain ⟨fresh, once⟩ := List.nodup_cons.1 once
    obtain rfl | hs := List.mem_cons.1 hs
    · obtain ⟨_, _, _, -, -, made⟩ := contribution_eq_step hf
      have own : s.nodeId = n.id := congrArg PreprocessStep.nodeId made
      refine ⟨[], later, rfl, ?_⟩
      rw [own, guidedControls, List.map_cons, ← guidedControls, guidedControls_cons fresh,
        guidedControls_nil, Node.guided_cons_self]
      exact contributions_cons_eq_ok.2 ⟨_, later, contribution_answered hf url, hr, rfl⟩
    · have step : s ∈ later.filterMap Contribution.step? := List.mem_filterMap.2 ⟨_, hs, rfl⟩
      have listed : s.nodeId ∈ rest.map fun p => p.1.id :=
        (steps_sublist hr).subset (List.mem_map_of_mem step)
      have other : n.id ≠ s.nodeId := (ne_of_mem_of_not_mem listed fresh).symm
      have kept : n.guided [(s.nodeId, url)] = n := Node.guided_cons_of_ne other url []
      obtain ⟨before, after, rfl, again⟩ := ih once hr hs
      refine ⟨first :: before, after, rfl, contributions_cons_eq_ok.2 ⟨first, _, ?_, again, rfl⟩⟩
      exact (congrArg (l.contribution · c) kept).trans hf

end Lineage

/-- A request made again when the guide of a step is there: the step is gone, the entry with its
guide stands in the call, and all else is as before. -/
structure Request.Given (first again : Request) (s : PreprocessStep) (url : String) : Prop where
  flow : again.flow = first.flow
  method : again.main.method = first.main.method
  params : ∀ key ≠ "controlnet", again.main.params.get? key = first.main.params.get? key
  steps : ∃ before after,
    first.preprocess = before ++ s :: after ∧ again.preprocess = before ++ after
  settled : ∀ other ∈ again.preprocess, other.nodeId ≠ s.nodeId
  entries : ∃ before after : List ControlEntry,
    first.main.params.get? "controlnet" = nonempty? ((before ++ after).map ControlEntry.toJson) ∧
    again.main.params.get? "controlnet" =
      some (.arr ((before ++ s.entry url :: after).map ControlEntry.toJson))

theorem Lineage.given_answered (l : Lineage) {before after : List Contribution}
    {s : PreprocessStep} {url : String} (filled : Text.allBlank url = false)
    (once : (((before ++ .step s :: after).filterMap Contribution.step?).map
      PreprocessStep.nodeId).Nodup) :
    (l.withContributions (before ++ .step s :: after)).Given
      (l.withContributions (before ++ answered s url :: after)) s url := by
  have entry : answered s url = .entry (s.entry url) := by simp [answered, filled]
  have firsts : (before ++ .step s :: after).filterMap Contribution.step? =
      before.filterMap Contribution.step? ++ s :: after.filterMap Contribution.step? :=
    List.filterMap_append
  have agains : (before ++ answered s url :: after).filterMap Contribution.step? =
      before.filterMap Contribution.step? ++ after.filterMap Contribution.step? := by
    rw [entry]
    exact List.filterMap_append
  refine ⟨rfl, l.mainWith_method _ _, fun key other => l.mainWith_others _ _ other,
    ⟨_, _, firsts, agains⟩, fun other listed same => ?_,
    before.filterMap Contribution.entry?, after.filterMap Contribution.entry?, ?_, ?_⟩
  · rw [firsts, List.map_append, List.map_cons] at once
    obtain ⟨fresh, -⟩ := List.nodup_cons.1 (List.nodup_middle.1 once)
    rw [withContributions, agains] at listed
    refine fresh ?_
    rw [← List.map_append, ← same]
    exact List.mem_map_of_mem listed
  · rw [withContributions, mainWith_controls]
    congr 2
    exact List.filterMap_append
  · rw [withContributions, mainWith_controls, entry, List.filterMap_append]
    refine nonempty?_eq_some.2 ?_
    cases before.filterMap Contribution.entry? <;> simp [Contribution.entry?]

/-- After a guide is written onto the node of its step, the request has an entry with it in place of
the step, or, if the guide is blank, is the same as before. -/
theorem Workflow.compile_answered {w : Workflow} {settings : Settings} {target : NodeId}
    {request : Request} {s : PreprocessStep} (unique : (w.nodes.map Node.id).Nodup)
    (compiled : w.compile settings target = .ok request) (flow : request.flow = .textToImage)
    (hs : s ∈ request.preprocess) (url : String) :
    ∃ again, (w.update s.nodeId (guidePatch url)).compile settings target = .ok again ∧
      (Text.allBlank url = false → request.Given again s url) ∧
      (Text.allBlank url = true → again = request) := by
  obtain ⟨l, found, once, contributed, rfl, recompiled⟩ := w.compile_guided unique compiled flow
  obtain ⟨c, hc, step⟩ := List.mem_filterMap.1 hs
  cases c with
  | entry e => cases step
  | nothing => cases step
  | step own =>
    cases step
    have ids := (Lineage.steps_sublist contributed).nodup once
    obtain ⟨before, after, rfl, again⟩ := Lineage.contributions_answered once contributed hc url
    refine ⟨_, recompiled [(s.nodeId, url)] (List.nodup_singleton _) _ again,
      fun filled => l.given_answered filled ids, fun blank => ?_⟩
    rw [Lineage.answered, if_pos blank]

namespace Client

/-! ### What is accepted -/

/-- The keys under which a guide may stand. -/
def guideKeys : List String := ["guideUrl", "imageUrl", "url", "image"]

variable {response : Json} {url : String}

theorem parseGuide_of_ne (h : ∀ s, response ≠ .str s) :
    parseGuide response =
      match response.textAt? guideKeys with
      | some url => .ok url
      | none => .error (.decode "preprocess response has no image") := by
  cases response with
  | str s => exact absurd rfl (h s)
  | null | bool | num | arr | obj => rfl

theorem parseGuide_eq_ok :
    parseGuide response = .ok url ↔
      response = .str url ∨ FirstAt string? guideKeys response url ∧ url ≠ "" := by
  rw [← textAt?_eq_some]
  by_cases text : ∃ s, response = .str s
  · obtain ⟨s, rfl⟩ := text
    have none : (Json.str s).textAt? guideKeys = none := by
      simp [textAt?, firstOf?, field?, guideKeys]
    simp [parseGuide, none]
  · rw [parseGuide_of_ne (not_exists.1 text), or_iff_right fun same => text ⟨url, same⟩]
    cases response.textAt? guideKeys <;> simp

theorem parseGuide_eq_error {e : ClientError} :
    parseGuide response = .error e ↔ e = .decode "preprocess response has no image" ∧
      (∀ s, response ≠ .str s) ∧
        ((∀ key ∈ guideKeys, ∀ s, response.field? key ≠ some (.str s)) ∨
          FirstAt string? guideKeys response "") := by
  rw [← textAt?_eq_none]
  by_cases text : ∃ s, response = .str s
  · obtain ⟨s, rfl⟩ := text
    simp [parseGuide]
  · rw [parseGuide_of_ne (not_exists.1 text), and_iff_right (not_exists.1 text)]
    cases response.textAt? guideKeys <;> simp [eq_comm]

/-- A response that is accepted gives the guide that it is or that stands first under the keys. If
the guide is not blank, the request that is made after the execution has written it has an entry
with it in place of the step; if it is blank, that request has the step again. A response is
rejected only if it is without a guide or an empty text hides the guide that it has. -/
theorem accepted_guide (response : Json) :
    (∀ url, parseGuide response = .ok url ↔
      response = .str url ∨ FirstAt string? guideKeys response url ∧ url ≠ "") ∧
    (∀ e, parseGuide response = .error e ↔
      e = .decode "preprocess response has no image" ∧ (∀ s, response ≠ .str s) ∧
        ((∀ key ∈ guideKeys, ∀ s, response.field? key ≠ some (.str s)) ∨
          FirstAt string? guideKeys response "")) ∧
    ∀ url, parseGuide response = .ok url →
      ∀ (w : World) (target : NodeId) (request : Request) (s : PreprocessStep),
        (w.workflow.nodes.map Node.id).Nodup → w.compile target = .ok request →
        request.flow = .textToImage → s ∈ request.preprocess →
        ∀ (t : Trigger) (record : RecordId) (rest : List PreprocessStep) (main : MainStep),
          ∃ again,
            (t.resume w (.preprocessing record s rest main) (.ok url)).world.compile target =
              .ok again ∧
            (Text.allBlank url = false → request.Given again s url) ∧
            (Text.allBlank url = true → again = request) := by
  refine ⟨fun url => parseGuide_eq_ok, fun e => parseGuide_eq_error, ?_⟩
  intro url _ w target request s unique compiled flow hs t record rest main
  exact w.workflow.compile_answered unique compiled flow hs url

/-- A control-net whose guide is made. -/
theorem accepted_guide_depth :
    let w : World := ⟨{}, ⟨"flow", "",
      [⟨"out", "output", .null⟩, ⟨"depth", "control-net-depth", .obj [("imageId", .str "source")]⟩],
      [⟨"1", "depth", "out"⟩]⟩, fun _ => "record", {}, 0, [], .epoch⟩
    let response := Json.obj [("guideUrl", .null), ("url", .str "/1")]
    ∃ request s again, parseGuide response = .ok "/1" ∧ w.compile "out" = .ok request ∧
      request.preprocess = [s] ∧
      (Trigger.resume ⟨"flow", "out"⟩ w (.preprocessing "record" s [] request.main)
        (.ok "/1")).world.compile "out" = .ok again ∧
      request.Given again s "/1" := by
  intro w response
  have shape : (w.compile "out").toOption.map
      (fun r => (r.flow, r.preprocess.map PreprocessStep.nodeId)) =
        some (.textToImage, ["depth"]) := by
    decide +kernel
  obtain ⟨request, compiled, kept⟩ := exists_ok_of_map shape
  obtain ⟨flow, ids⟩ := Prod.mk.inj kept
  obtain ⟨s, one, -⟩ := List.map_eq_singleton_iff.1 ids
  have accepted : parseGuide response = .ok "/1" := by rfl
  obtain ⟨-, -, settle⟩ := accepted_guide response
  obtain ⟨again, recompiled, given, -⟩ := settle "/1" accepted w "out" request s
    (by decide) compiled flow (one ▸ List.mem_singleton_self s) ⟨"flow", "out"⟩ "record" []
    request.main
  exact ⟨request, s, again, accepted, compiled, one, recompiled, given (by decide)⟩

/-- The empty text is accepted as a guide and is none, so the step is there again; and an empty text
under the first key hides a guide under another. -/
theorem accepted_guide_empty :
    let w : World := ⟨{}, ⟨"flow", "",
      [⟨"out", "output", .null⟩, ⟨"depth", "control-net-depth", .obj [("imageId", .str "source")]⟩],
      [⟨"1", "depth", "out"⟩]⟩, fun _ => "record", {}, 0, [], .epoch⟩
    (∃ request s again, parseGuide (.str "") = .ok "" ∧ w.compile "out" = .ok request ∧
      request.flow = .textToImage ∧ request.preprocess = [s] ∧
      (Trigger.resume ⟨"flow", "out"⟩ w (.preprocessing "record" s [] request.main)
        (.ok "")).world.compile "out" = .ok again ∧
      again.preprocess = [s] ∧ again.main.params.get? "controlnet" = none) ∧
    parseGuide (.obj [("guideUrl", .str ""), ("url", .str "/1")]) =
      .error (.decode "preprocess response has no image") := by
  intro w
  have shape : (w.compile "out").toOption.map
      (fun r => (r.flow, r.preprocess.map PreprocessStep.nodeId,
        (r.main.params.get? "controlnet").isNone)) = some (.textToImage, ["depth"], true) := by
    decide +kernel
  obtain ⟨request, compiled, kept⟩ := exists_ok_of_map shape
  obtain ⟨flow, kept⟩ := Prod.mk.inj kept
  obtain ⟨ids, absent⟩ := Prod.mk.inj kept
  obtain ⟨s, one, -⟩ := List.map_eq_singleton_iff.1 ids
  obtain ⟨again, recompiled, -, same⟩ := w.workflow.compile_answered (by decide) compiled flow
    (one ▸ List.mem_singleton_self s) ""
  cases same (by decide)
  exact ⟨⟨request, s, request, rfl, compiled, flow, one, recompiled, one,
    Option.isNone_iff_eq_none.1 absent⟩, rfl⟩

end Client

end ImageGraph
