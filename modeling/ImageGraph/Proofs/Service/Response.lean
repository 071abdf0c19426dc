import ImageGraph.Proofs.Execution.Description
import ImageGraph.Proofs.Graph.Attribute

/-! What is taken from the response to a main call. An error wins; otherwise one place is looked at,
and the first text that it has counts. So an image at another place is not seen, an empty text hides
one behind it, and an empty text that stands where the image should is taken for its URL. -/

namespace ImageGraph

open Json

namespace Output

/-- A response reports an error. -/
def Reports (response : Json) : Prop :=
  ∃ error, response.field? "error" = some error ∧ error ≠ .null

/-- Where a value may have the URL of an image. -/
def urlKeys : List String :=
  ["imageUrl", "url", "image"]

/-- Where a response may have a list of images. -/
def listKeys : List String :=
  ["images", "data"]

/-- A value shows an image: it is its URL, or has it under one of the keys. -/
inductive Shows : Json → String → Prop where
  | text {url : String} : url ≠ "" → Shows (.str url) url
  | field {j : Json} {key url : String} :
      key ∈ urlKeys → j.field? key = some (.str url) → url ≠ "" → Shows j url

/-- A place of a response where an image may be: all of it, or the first item of a list. -/
inductive Place (response : Json) : Json → Prop where
  | whole : Place response response
  | item {key : String} {first : Json} {rest : List Json} :
      key ∈ listKeys → response.field? key = some (.arr (first :: rest)) → Place response first

/-- A response has an image, at whatever place. -/
def HasImage (response : Json) : Prop :=
  ∃ part url, Place response part ∧ Shows part url

/-- The one place that is looked at: the first item of the first list, or without such an item all
of the response. -/
inductive LookedAt (response : Json) : Json → Prop where
  | item {first : Json} {rest : List Json} :
      FirstAt array? listKeys response (first :: rest) → LookedAt response first
  | whole : (∀ items, FirstAt array? listKeys response items → items = []) →
      LookedAt response response

/-- An image cannot be seen: it is not at the place that is looked at, or behind an empty text. -/
inductive Obscured (response : Json) : Prop where
  | elsewhere {part : Json} :
      LookedAt response part → (∀ url, ¬ Shows part url) → Obscured response
  | masked {part : Json} :
      LookedAt response part → FirstAt string? urlKeys part "" → Obscured response

/-- There is an empty text at the place that is looked at. -/
def Hollow (response : Json) : Prop :=
  LookedAt response (.str "")

/-- What comes of reading a response. -/
structure Reads (response : Json) (result : Except ServiceError Output) : Prop where
  remote : (∃ message, result = .error (.remote message)) ↔ Reports response
  ok : ¬ Reports response →
    ((∃ o, result = .ok o) ↔ HasImage response ∧ ¬ Obscured response ∨ Hollow response)
  invalid : ¬ Reports response → (∀ o, result ≠ .ok o) →
    result = .error (.invalidResponse "response contains no image")
  url : ∀ o, result = .ok o → (o.imageUrl = "" ↔ Hollow response) ∧
    (o.imageUrl ≠ "" → ∃ part, Place response part ∧ Shows part o.imageUrl)

variable {response part : Json} {url : String}

/-! ### The place that is looked at -/

theorem LookedAt.place (h : LookedAt response part) : Place response part := by
  cases h with
  | whole => exact .whole
  | item list =>
    obtain ⟨before, key, after, keys, items, -⟩ := list
    have listed : key ∈ listKeys := by simp [keys]
    obtain ⟨value, given, read⟩ := Option.bind_eq_some_iff.1 items
    cases value <;> cases read
    exact .item listed given

theorem lookedAt_iff : LookedAt response part ↔ part = imagePart response := by
  have own : imagePart response =
      ((response.firstOf? array? listKeys).bind List.head?).getD response := rfl
  rw [own]
  constructor
  · intro h
    cases h with
    | item found => rw [firstOf?_eq_some.2 found]; rfl
    | whole none =>
      cases h : response.firstOf? array? listKeys with
      | none => rfl
      | some items =>
        rw [none items (firstOf?_eq_some.1 h)]
        rfl
  · rintro rfl
    cases h : response.firstOf? array? listKeys with
    | none =>
      refine .whole fun items found => ?_
      cases h.symm.trans (firstOf?_eq_some.2 found)
    | some items =>
      cases items with
      | nil =>
        refine .whole fun items found => ?_
        cases h.symm.trans (firstOf?_eq_some.2 found)
        rfl
      | cons first rest => exact .item (firstOf?_eq_some.1 h)

/-! ### The URL that is read there -/

theorem imageUrl?_eq_some :
    imageUrl? part = some url ↔
      part = .str url ∨ FirstAt string? urlKeys part url ∧ url ≠ "" := by
  cases part with
  | str s =>
    have none : ¬ FirstAt string? urlKeys (.str s) url := by
      rintro ⟨before, key, after, -, found, -⟩
      cases found
    simp [imageUrl?, none]
  | null | bool | num | arr | obj => simpa [imageUrl?, urlKeys] using textAt?_eq_some

/-- What is read is shown there, unless it is the empty text. -/
theorem shows_of_imageUrl? (read : imageUrl? part = some url) (filled : url ≠ "") :
    Shows part url := by
  obtain rfl | ⟨⟨before, key, after, keys, found, -⟩, -⟩ := imageUrl?_eq_some.1 read
  · exact .text filled
  · exact .field (by simp [keys]) (bind_string?_eq_some.1 found) filled

/-- If nothing is read, then nothing is shown, or an empty text comes first. -/
theorem masked_of_imageUrl? (unread : imageUrl? part = none) (shown : Shows part url) :
    FirstAt string? urlKeys part "" := by
  cases shown with
  | text => cases unread
  | @field _ key _ listed found filled =>
    have there : (part.firstOf? string? urlKeys).isSome := by
      rw [firstOf?, List.findSome?_isSome_iff]
      exact ⟨key, listed, by simp [found, string?]⟩
    obtain ⟨first, hf⟩ := Option.isSome_iff_exists.1 there
    by_cases empty : first = ""
    · exact firstOf?_eq_some.1 (empty ▸ hf)
    · rw [imageUrl?_eq_some.2 (.inr ⟨firstOf?_eq_some.1 hf, empty⟩)] at unread
      cases unread

theorem imageUrl?_of_masked (masked : FirstAt string? urlKeys part "") :
    imageUrl? part = none := by
  refine Option.eq_none_iff_forall_ne_some.2 fun url read => ?_
  obtain rfl | ⟨first, filled⟩ := imageUrl?_eq_some.1 read
  · obtain ⟨before, key, after, -, found, -⟩ := masked
    cases found
  · have same := (firstOf?_eq_some.2 masked).symm.trans (firstOf?_eq_some.2 first)
    exact filled (Option.some.inj same).symm

/-! ### The outcome -/

theorem ofResponse_reports (h : Reports response) :
    ∃ message, ofResponse response = .error (.remote message) := by
  obtain ⟨error, given, other⟩ := h
  have kept : (response.field? "error").filter (fun e => !e.isNull) = some error := by
    rw [given, Option.filter_some]
    cases error <;> simp [isNull] at other ⊢
  exact ⟨errorText error, by rw [ofResponse, kept]⟩

theorem ofResponse_quiet (h : ¬ Reports response) :
    (imageUrl? (imagePart response) = none ∧
      ofResponse response = .error (.invalidResponse "response contains no image")) ∨
    ∃ o, imageUrl? (imagePart response) = some o.imageUrl ∧ ofResponse response = .ok o := by
  have kept : (response.field? "error").filter (fun e => !e.isNull) = none := by
    refine Option.eq_none_iff_forall_ne_some.2 fun error found => h ?_
    obtain ⟨given, other⟩ := Option.filter_eq_some_iff.1 found
    exact ⟨error, given, by rintro rfl; cases other⟩
  cases read : imageUrl? (imagePart response) with
  | none => exact .inl ⟨rfl, by simp only [ofResponse, kept, read]⟩
  | some url =>
    right
    simp only [ofResponse, kept, read]
    exact ⟨_, rfl, rfl⟩

/-- A URL is read just if an image can be seen, or an empty text is taken for one. -/
theorem isSome_imageUrl?_iff :
    (imageUrl? (imagePart response)).isSome ↔
      HasImage response ∧ ¬ Obscured response ∨ Hollow response := by
  have looked : LookedAt response (imagePart response) := lookedAt_iff.2 rfl
  constructor
  · intro there
    obtain ⟨url, read⟩ := Option.isSome_iff_exists.1 there
    by_cases filled : url = ""
    · subst filled
      obtain same | ⟨-, filled⟩ := imageUrl?_eq_some.1 read
      · exact .inr (lookedAt_iff.2 same.symm)
      · exact absurd rfl filled
    · have shown := shows_of_imageUrl? read filled
      refine .inl ⟨⟨_, url, looked.place, shown⟩, fun obscured => ?_⟩
      cases obscured with
      | elsewhere other unseen =>
        obtain rfl := lookedAt_iff.1 other
        exact unseen url shown
      | masked other empty =>
        obtain rfl := lookedAt_iff.1 other
        cases (imageUrl?_of_masked empty).symm.trans read
  · rintro (⟨-, clear⟩ | hollow)
    · by_contra none
      have unread := Option.not_isSome_iff_eq_none.1 none
      by_cases seen : ∃ url, Shows (imagePart response) url
      · obtain ⟨url, shown⟩ := seen
        exact clear (.masked looked (masked_of_imageUrl? unread shown))
      · exact clear (.elsewhere looked (not_exists.1 seen))
    · rw [← lookedAt_iff.1 hollow]
      rfl

theorem reads_ofResponse (response : Json) : Reads response (ofResponse response) := by
  by_cases reports : Reports response
  · obtain ⟨message, failed⟩ := ofResponse_reports reports
    rw [failed]
    exact ⟨⟨fun _ => reports, fun _ => ⟨message, rfl⟩⟩, fun quiet => absurd reports quiet,
      fun quiet => absurd reports quiet, nofun⟩
  have looked : LookedAt response (imagePart response) := lookedAt_iff.2 rfl
  have there : (imageUrl? (imagePart response)).isSome ↔
      HasImage response ∧ ¬ Obscured response ∨ Hollow response := isSome_imageUrl?_iff
  obtain ⟨read, failed⟩ | ⟨o, read, made⟩ := ofResponse_quiet reports
  · rw [failed]
    rw [read] at there
    exact ⟨iff_of_false (by simp) reports, fun _ => by simpa using there, fun _ _ => rfl, nofun⟩
  · rw [made]
    rw [read] at there
    refine ⟨iff_of_false (by simp) reports, fun _ => by simpa using there, fun _ none => ?_, ?_⟩
    · exact absurd rfl (none o)
    · rintro _ ⟨⟩
      refine ⟨⟨fun empty => ?_, fun hollow => ?_⟩, fun filled => ?_⟩
      · obtain same | ⟨-, filled⟩ := imageUrl?_eq_some.1 read
        · exact lookedAt_iff.2 (empty ▸ same.symm)
        · exact absurd empty filled
      · have same : imageUrl? (.str "") = some o.imageUrl := lookedAt_iff.1 hollow ▸ read
        exact (Option.some.inj same).symm
      · exact ⟨_, looked.place, shows_of_imageUrl? read filled⟩

/-- An image can be read that is not there, and one that is there can be missed: an empty text for
the whole response is read, and an empty list, an empty item or an empty text comes before the image
that is shown. -/
theorem ofResponse_hollow :
    (¬ Reports (.str "") ∧ ¬ HasImage (.str "") ∧
      ofResponse (.str "") = .ok ⟨"", none, none, none, none⟩) ∧
    ∀ response ∈ [
        Json.obj [("images", .arr []), ("data", .arr [.str "/1"])],
        Json.obj [("images", .arr [.obj []]), ("url", .str "/1")],
        Json.obj [("imageUrl", .str ""), ("url", .str "/1")]],
      ¬ Reports response ∧ HasImage response ∧
        ofResponse response = .error (.invalidResponse "response contains no image") := by
  refine ⟨⟨?_, ?_, rfl⟩, ?_⟩
  · rintro ⟨error, given, -⟩
    cases given
  · rintro ⟨part, url, place, shown⟩
    cases place with
    | whole =>
      cases shown with
      | text filled => exact filled rfl
      | field _ given => cases given
    | item _ given => cases given
  · simp only [List.forall_mem_cons, List.not_mem_nil, false_imp_iff, implies_true, and_true]
    refine ⟨⟨?_, ⟨_, "/1", .item (.tail _ (.head _)) rfl, .text (by decide)⟩, rfl⟩,
      ⟨?_, ⟨_, "/1", .whole, .field (.tail _ (.head _)) rfl (by decide)⟩, rfl⟩,
      ⟨?_, ⟨_, "/1", .whole, .field (.tail _ (.head _)) rfl (by decide)⟩, rfl⟩⟩ <;>
    · rintro ⟨error, given, -⟩
      cases given

end Output

namespace Surroundings

variable {σ : Type}

/-- A success is reported in full. -/
theorem execute_success (e : Surroundings σ) {output : NodeId} {w : World} {s : σ} {r : Record}
    (ok : (e.execute output w s).1 = .ok r) :
    ∃ found response image, SuccessReport output response image found (e.execute output w s).2.1
      (e.trace output w s).events r := by
  obtain ⟨entered, he⟩ := e.execute_entered (by rw [ok]; nofun)
  have ending := (e.execute_observed output w s).2.ending (World.trigger_shape he)
  rw [ok] at ending
  cases ending with
  | succeeded response image _ _ report => exact ⟨_, response, image, report⟩

/-- A response is read as an error if it reports one. Otherwise it is read as an image just if it
has one that is not obscured, or an empty text stands where the image should, and is refused if not.
The record of a success has the response, and its output node the URL that was read there, which is
that of an image in the response unless it is the empty text. -/
theorem response_read (e : Surroundings σ) (output : NodeId) (w : World) (s : σ) :
    (∀ response, Output.Reads response (Output.ofResponse response)) ∧
      ∀ r, (e.execute output w s).1 = .ok r → ∃ response image,
        r.status = .succeeded ∧ r.response = some response ∧
          Output.ofResponse response = .ok image ∧
          (e.execute output w s).2.1.store.get? r.id = some r ∧
          (∀ n, (e.execute output w s).2.1.workflow.node? output = some n →
            n.attribute? "imageUrl" = some (.str image.imageUrl)) ∧
          (image.imageUrl = "" ↔ Output.Hollow response) ∧
          (image.imageUrl ≠ "" →
            ∃ part, Output.Place response part ∧ Output.Shows part image.imageUrl) := by
  refine ⟨Output.reads_ofResponse, fun r ok => ?_⟩
  obtain ⟨found, response, image, report⟩ := e.execute_success ok
  obtain ⟨hollow, shown⟩ := (Output.reads_ofResponse response).url image report.read
  exact ⟨response, image, report.status, report.response, report.read, report.stored,
    fun n hn => (report.node n hn).1, hollow, shown⟩

/-- The response is an empty text, and counts as an image. -/
theorem response_read_empty :
    let w : World := {
      settings := {}
      workflow := ⟨"flow", "", [⟨"out", "output", .null⟩], []⟩
      recordName := toString }
    let e : Surroundings Unit := {
      answer c w s := match c with
        | .main _ => (.ok (.str ""), w, s)
        | _ => (.error (.transport "down"), w, s)
      publish _ s := (.ok (), s) }
    ∃ r, (e.execute "out" w ()).1 = .ok r ∧ r.status = .succeeded ∧
      ∀ n, (e.execute "out" w ()).2.1.workflow.node? "out" = some n →
        n.attribute? "imageUrl" = some (.str "") := by
  intro w e
  have uploads : w.uploadsFor "out" = [] := by decide +kernel
  have steps : (w.stepsFor "out").isEmpty := by decide +kernel
  have compiles : (w.compile "out").isOk := by decide +kernel
  obtain ⟨r, ok, heard⟩ :=
    e.execute_answered () (fun _ _ _ => rfl) rfl rfl uploads compiles steps
  obtain ⟨response, image, status, heard', read, -, shown, hollow, -⟩ :=
    (e.response_read "out" w ()).2 r ok
  obtain rfl := Option.some.inj (heard.symm.trans heard')
  have empty : image.imageUrl = "" := hollow.2 (Output.lookedAt_iff.2 rfl)
  exact ⟨r, ok, status, fun n hn => empty ▸ shown n hn⟩

end Surroundings

end ImageGraph
