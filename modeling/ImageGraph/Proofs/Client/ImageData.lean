import ImageGraph.Client.ImageData
import ImageGraph.Proofs.Text.Base64
import ImageGraph.Proofs.Text.Spelling

/-! Images as text. A text denotes an image in one way at most: what is read from it is written
back, up to blanks around the base64 and the marks of the encoding behind the type. A text of base64
alone is no data URL, since it has no colon. -/

namespace ImageGraph.Client.ImageData

/-- The mark of the encoding, so many times. -/
def encodings : Nat → String
  | 0 => ""
  | n + 1 => encodings n ++ ";base64"

/-- A text has a payload of a type: all of it has the type that is not named, and a data URL has
what follows its first comma, if the mark of the encoding stands there at least once. -/
inductive Carries : String → String → String → Prop where
  | bare {text : String} : (∀ rest, text ≠ "data:" ++ rest) → Carries text defaultMime text
  | url {type payload : String} (more : Nat) :
      ',' ∉ type.toList → (∀ t, type ≠ t ++ ";base64") →
      Carries ("data:" ++ (type ++ encodings (more + 1)) ++ "," ++ payload)
        (if type = "" then defaultMime else type) payload

/-! ### Types -/

theorem dropEndings_self {ending s : List Char} (h : ∀ rest, s ≠ ending ++ rest) (n : Nat) :
    dropEndings ending n s = s := by
  have none : Text.dropStart? ending s = none :=
    Option.eq_none_iff_forall_ne_some.2 fun rest found => h rest (Text.dropStart?_eq_some.1 found)
  cases n with
  | zero => rfl
  | succ n => rw [dropEndings, none]

theorem dropEndings_append (ending s : List Char) (n : Nat) :
    dropEndings ending (n + 1) (ending ++ s) = dropEndings ending n s := by
  rw [dropEndings, Text.dropStart?_eq_some.2 rfl]

theorem le_length_encodings (n : Nat) : n ≤ (encodings n).length := by
  induction n with
  | zero => exact Nat.zero_le _
  | succ n ih =>
    rw [encodings, String.length_append]
    have : ";base64".length = 7 := by decide
    omega

theorem comma_not_mem_encodings (n : Nat) : ',' ∉ (encodings n).toList := by
  induction n with
  | zero => exact List.not_mem_nil
  | succ n ih =>
    rw [encodings, String.toList_append, List.mem_append, not_or]
    exact ⟨ih, by decide⟩

/-- All marks behind a type are removed, and no more than those. -/
theorem withoutEncoding_append {type : String} (h : ∀ t, type ≠ t ++ ";base64") (n : Nat) :
    withoutEncoding (type ++ encodings n) = type := by
  have unmarked : ∀ rest, type.toList.reverse ≠ ";base64".toList.reverse ++ rest := by
    intro rest same
    refine h (String.ofList rest.reverse) (String.toList_inj.1 ?_)
    rw [← List.reverse_inj, same]
    simp
  have removed : ∀ fuel, n ≤ fuel →
      dropEndings ";base64".toList.reverse fuel (type ++ encodings n).toList.reverse =
        type.toList.reverse := by
    induction n with
    | zero =>
      intro fuel _
      rw [encodings, String.append_empty]
      exact dropEndings_self unmarked fuel
    | succ n ih =>
      intro fuel enough
      obtain ⟨fuel, rfl⟩ := Nat.exists_eq_add_of_le' (Nat.one_le_of_lt enough)
      rw [encodings, ← String.append_assoc, String.toList_append, List.reverse_append,
        dropEndings_append]
      exact ih fuel (Nat.le_of_succ_le_succ enough)
  have enough : n ≤ (type ++ encodings n).toList.reverse.length := by
    have := le_length_encodings n
    rw [List.length_reverse, String.length_toList, String.length_append]
    omega
  rw [withoutEncoding, removed _ enough, List.reverse_reverse, String.ofList_toList]

theorem exists_type (header : String) :
    ∃ type n, header = type ++ encodings n ∧ ∀ t, type ≠ t ++ ";base64" := by
  by_cases marked : ∃ t, header = t ++ ";base64"
  · obtain ⟨t, rfl⟩ := marked
    obtain ⟨type, n, rfl, unmarked⟩ := exists_type t
    exact ⟨type, n + 1, by rw [encodings, String.append_assoc], unmarked⟩
  · exact ⟨header, 0, String.append_empty.symm, not_exists.1 marked⟩
termination_by header.length
decreasing_by
  subst_vars
  rw [String.length_append]
  have : ";base64".length = 7 := by decide
  omega

/-! ### What is read -/

variable {data mime payload : String} {image : ImageData}

theorem split_of_carries (h : Carries data mime payload) : split data = .ok (mime, payload) := by
  cases h with
  | bare apart =>
    have none : Text.afterStart? "data:" data = none := by
      refine Option.eq_none_iff_forall_ne_some.2 fun rest found => ?_
      exact apart rest (Text.afterStart?_eq_some.1 found)
    rw [split, none]
  | @url type _ more apart unmarked =>
    have url : Text.afterStart? "data:"
        ("data:" ++ (type ++ encodings (more + 1)) ++ "," ++ payload) =
          some (type ++ encodings (more + 1) ++ "," ++ payload) :=
      Text.afterStart?_eq_some.2 (by simp only [String.append_assoc])
    have cut : Text.cut? ',' (type ++ encodings (more + 1) ++ "," ++ payload) =
        some (type ++ encodings (more + 1), payload) := by
      refine Text.cut?_eq_some.2 ⟨rfl, ?_⟩
      rw [String.toList_append, List.mem_append, not_or]
      exact ⟨apart, comma_not_mem_encodings _⟩
    have marked : Text.endsWith ";base64" (type ++ encodings (more + 1)) = true :=
      Text.endsWith_iff.2 ⟨type ++ encodings more, by rw [encodings, String.append_assoc]⟩
    simp only [split, url, cut, marked, withoutEncoding_append unmarked]
    rfl

theorem carries_of_split (h : split data = .ok (mime, payload)) : Carries data mime payload := by
  unfold split at h
  split at h
  · rename_i none
    cases h
    refine .bare fun rest same => ?_
    rw [Text.afterStart?_eq_some.2 same] at none
    cases none
  · rename_i url found
    split at h
    · cases h
    · rename_i header rest cut
      split at h
      · rename_i marked
        cases h
        obtain ⟨rfl, apart⟩ := Text.cut?_eq_some.1 cut
        obtain ⟨type, n, rfl, unmarked⟩ := exists_type header
        obtain ⟨more, rfl⟩ : ∃ more, n = more + 1 := by
          cases n with
          | succ more => exact ⟨more, rfl⟩
          | zero =>
            obtain ⟨t, same⟩ := Text.endsWith_iff.1 marked
            exact absurd (String.append_empty.symm.trans same) (unmarked t)
        rw [String.toList_append, List.mem_append, not_or] at apart
        rw [withoutEncoding_append unmarked, Text.afterStart?_eq_some.1 found,
          ← String.append_assoc, ← String.append_assoc]
        exact .url more apart.1 unmarked
      · cases h

/-- What is read from a text is not empty, and its base64 is the payload of the text without the
blanks around it. -/
theorem decode_eq_ok : decode data = .ok image ↔ image.bytes ≠ [] ∧
    ∃ payload, Carries data image.mime payload ∧
      Text.trim payload = String.ofList (Base64.encode image.bytes) := by
  constructor
  · intro h
    unfold decode at h
    split at h
    · cases h
    · rename_i mime payload divided
      split at h
      · cases h
      · cases h
      · rename_i bytes filled read
        cases h
        refine ⟨filled, payload, carries_of_split divided, ?_⟩
        rw [← Base64.eq_encode_of_decode? read, String.ofList_toList]
  · rintro ⟨filled, payload, carried, base64⟩
    have read : Base64.decode? (Text.trim payload).toList = some image.bytes := by
      rw [base64, String.toList_ofList, Base64.decode?_encode]
    unfold decode
    rw [split_of_carries carried]
    simp only [read]

/-! ### What is written -/

section

variable {bytes : List UInt8} {before after : String} (hb : Text.allBlank before = true)
  (ha : Text.allBlank after = true)
include hb ha

theorem trim_written :
    Text.trim (before ++ String.ofList (Base64.encode bytes) ++ after) =
      String.ofList (Base64.encode bytes) := by
  rw [Text.trim_around hb ha]
  refine Text.Trimmed.trim_eq ?_
  rw [String.toList_ofList]
  constructor
  · exact fun c hc => (Base64.plain_of_mem_encode (List.mem_of_mem_head? hc)).1
  · exact fun c hc => (Base64.plain_of_mem_encode (List.mem_of_mem_getLast? hc)).1

/-- Base64 is no data URL, nor is it one with blanks around it. -/
theorem written_ne_url (rest : String) :
    before ++ String.ofList (Base64.encode bytes) ++ after ≠ "data:" ++ rest := by
  intro same
  have colon : ':' ∈ (before ++ String.ofList (Base64.encode bytes) ++ after).toList := by
    rw [same, String.toList_append]
    exact List.mem_append_left _ (by decide)
  have plain : ∀ s, Text.allBlank s = true → ':' ∉ s.toList := by
    intro s blank inside
    have := List.all_eq_true.1 blank ':' inside
    revert this
    decide
  simp only [String.toList_append, String.toList_ofList, List.mem_append] at colon
  obtain (colon | colon) | colon := colon
  · exact plain before hb colon
  · exact (Base64.plain_of_mem_encode colon).2 rfl
  · exact plain after ha colon

end

/-- A data URL of base64 and base64 alone, with blanks around it or not, are read as the bytes that
were written, of the type that the URL names if it names one. A text is read as an image only if its
payload is the base64 of that image, which is not empty, with nothing but blanks around it. -/
theorem decode_written :
    (∀ (bytes : List UInt8) (type before after : String), bytes ≠ [] → ',' ∉ type.toList →
      (∀ t, type ≠ t ++ ";base64") → Text.allBlank before = true → Text.allBlank after = true →
      decode ("data:" ++ type ++ ";base64," ++
          (before ++ String.ofList (Base64.encode bytes) ++ after)) =
        .ok ⟨bytes, if type = "" then "image/png" else type⟩) ∧
    (∀ (bytes : List UInt8) (before after : String), bytes ≠ [] →
      Text.allBlank before = true → Text.allBlank after = true →
      decode (before ++ String.ofList (Base64.encode bytes) ++ after) = .ok ⟨bytes, "image/png"⟩) ∧
    ∀ (data : String) (image : ImageData), decode data = .ok image ↔
      image.bytes ≠ [] ∧ ∃ payload, Carries data image.mime payload ∧
        Text.trim payload = String.ofList (Base64.encode image.bytes) := by
  refine ⟨fun bytes type before after filled apart unmarked hb ha => ?_,
    fun bytes before after filled hb ha => ?_, fun data image => decode_eq_ok⟩
  · have url : "data:" ++ type ++ ";base64," ++
        (before ++ String.ofList (Base64.encode bytes) ++ after) =
        "data:" ++ (type ++ encodings 1) ++ "," ++
          (before ++ String.ofList (Base64.encode bytes) ++ after) := by
      have mark : ";base64," = encodings 1 ++ "," := by decide
      simp only [mark, String.append_assoc]
    rw [url]
    exact decode_eq_ok.2 ⟨filled, _, .url 0 apart unmarked, trim_written hb ha⟩
  · exact decode_eq_ok.2 ⟨filled, _, .bare (written_ne_url hb ha), trim_written hb ha⟩

/-- A type with a mark of its own in front, and one byte that needs two characters of padding. -/
theorem decode_written_marked :
    let data := "data:image/jpeg;charset=a;base64," ++
      (" " ++ String.ofList (Base64.encode [255]) ++ "\n")
    data = "data:image/jpeg;charset=a;base64, /w==\n" ∧
      decode data = .ok ⟨[255], "image/jpeg;charset=a"⟩ ∧
      decode "/w==" = .ok ⟨[255], "image/png"⟩ ∧
      ∃ payload, Carries data "image/jpeg;charset=a" payload ∧ Text.trim payload = "/w==" := by
  intro data
  obtain ⟨url, bare, exact⟩ := decode_written
  have unmarked : ∀ t, "image/jpeg;charset=a" ≠ t ++ ";base64" := fun t same =>
    absurd (Text.endsWith_iff.2 ⟨t, same⟩) (by decide)
  have read : decode data = .ok ⟨[255], "image/jpeg;charset=a"⟩ :=
    url [255] "image/jpeg;charset=a" " " "\n" (by decide) (by decide) unmarked (by decide)
      (by decide)
  exact ⟨by decide, read, bare [255] "" "" (by decide) (by decide) (by decide),
    ((exact data _).1 read).2⟩

end ImageGraph.Client.ImageData
