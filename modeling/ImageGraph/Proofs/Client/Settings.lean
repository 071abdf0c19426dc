import ImageGraph.Client.Settings
import Mathlib.Data.List.Induction
import Mathlib.Data.Nat.Digits.Defs

/-! Settings and the variables that override them. A variable that is set gives its value, one that
is not leaves what was there; what comes out can be used, or nothing comes out. -/

namespace ImageGraph.Decimal

/-- The last digit counts ones, and each digit ten times what the one behind it does. -/
theorem value_eq_ofDigits (digits : List Char) :
    value digits = Nat.ofDigits 10 (digits.reverse.map fun c => c.toNat - 48) := by
  induction digits using List.reverseRecOn with
  | nil => rfl
  | append_singleton before last ih =>
    rw [List.reverse_concat, List.map_cons, Nat.ofDigits_cons, ← ih, value, List.foldl_append,
      ← value, List.foldl_cons, List.foldl_nil, Nat.add_comm]

end ImageGraph.Decimal

namespace ImageGraph.Client

attribute [ext] Settings

namespace Settings

/-- A text without the blanks around it is a number in decimal, perhaps after a plus sign. -/
def Denotes (text : String) (n : Nat) : Prop :=
  ∃ sign digits, (sign = [] ∨ sign = ['+']) ∧ digits ≠ [] ∧ digits.all Char.isDigit = true ∧
    (Text.trim text).toList = sign ++ digits ∧
    n = Nat.ofDigits 10 (digits.reverse.map fun c => c.toNat - 48)

/-- The settings can be used: there is a place to send requests to, and time to wait for an
answer. -/
structure Usable (s : Settings) : Prop where
  baseUrl : Text.allBlank s.baseUrl = false
  timeout : 0 < s.timeoutSecs

/-- The timeout with the overrides is `n`. -/
inductive Timed (s : Settings) (lookup : String → Option String) : UInt64 → Prop where
  | kept : lookup "GENERATION_TIMEOUT_SECS" = none → Timed s lookup s.timeoutSecs
  | given {text : String} {n : UInt64} :
      lookup "GENERATION_TIMEOUT_SECS" = some text → Denotes text n.toNat → Timed s lookup n

/-- Settings with the overrides: each variable that is set counts, and an empty key means that there
is none; all else is as it was. -/
structure Overridden (s : Settings) (lookup : String → Option String) (t : Settings) : Prop where
  baseUrl : t.baseUrl = (lookup "GENERATION_API_URL").getD s.baseUrl
  key : ∀ key, lookup "GENERATION_API_KEY" = some key → key ≠ "" → t.apiKey = some key
  keyless : lookup "GENERATION_API_KEY" = some "" → t.apiKey = none
  keyKept : lookup "GENERATION_API_KEY" = none → t.apiKey = s.apiKey
  timeout : s.Timed lookup t.timeoutSecs
  uploadPath : t.uploadPath = s.uploadPath
  preprocessPath : t.preprocessPath = s.preprocessPath

/-- Why no settings come out. A timeout that is no number comes first, then the base URL. -/
inductive Refuses (s : Settings) (lookup : String → Option String) : SettingsFault → Prop where
  | badTimeout {text : String} :
      lookup "GENERATION_TIMEOUT_SECS" = some text → (∀ n : UInt64, ¬ Denotes text n.toNat) →
      Refuses s lookup (.badTimeout text)
  | blankBaseUrl {n : UInt64} :
      s.Timed lookup n → Text.allBlank ((lookup "GENERATION_API_URL").getD s.baseUrl) = true →
      Refuses s lookup .blankBaseUrl
  | zeroTimeout :
      s.Timed lookup 0 → Text.allBlank ((lookup "GENERATION_API_URL").getD s.baseUrl) = false →
      Refuses s lookup .zeroTimeout

variable {s t : Settings} {lookup : String → Option String} {e : SettingsFault}

/-! ### Numbers of seconds -/

theorem seconds?_eq_some {text : String} {n : UInt64} :
    seconds? text = some n ↔ Denotes text n.toNat := by
  have read (digits : List Char) :
      (if digits ≠ [] ∧ digits.all Char.isDigit ∧ Decimal.value digits < UInt64.size then
        some (UInt64.ofNat (Decimal.value digits)) else none) = some n ↔
      digits ≠ [] ∧ digits.all Char.isDigit = true ∧
        n.toNat = Nat.ofDigits 10 (digits.reverse.map fun c => c.toNat - 48) := by
    rw [← Decimal.value_eq_ofDigits]
    constructor
    · intro h
      split at h
      · rename_i fits
        cases h
        exact ⟨fits.1, fits.2.1, UInt64.toNat_ofNat_of_lt' fits.2.2⟩
      · cases h
    · rintro ⟨some, plain, value⟩
      rw [if_pos ⟨some, plain, value ▸ n.toNat_lt_size⟩, ← value, UInt64.ofNat_toNat]
  unfold seconds?
  dsimp only
  split
  · rename_i rest signed
    rw [read]
    constructor
    · rintro ⟨some, plain, value⟩
      exact ⟨['+'], rest, .inr rfl, some, plain, signed, value⟩
    · rintro ⟨sign, digits, rfl | rfl, some, plain, whole, value⟩
      · rw [signed, List.nil_append] at whole
        subst whole
        cases plain
      · rw [signed] at whole
        cases whole
        exact ⟨some, plain, value⟩
  · rename_i unsigned
    rw [read]
    constructor
    · rintro ⟨some, plain, value⟩
      exact ⟨[], (Text.trim text).toList, .inl rfl, some, plain, (List.nil_append _).symm, value⟩
    · rintro ⟨sign, digits, rfl | rfl, some, plain, whole, value⟩
      · rw [whole]
        exact ⟨some, plain, value⟩
      · exact absurd whole (unsigned digits)

theorem Timed.denotes {text : String} {n : UInt64} (h : s.Timed lookup n)
    (set : lookup "GENERATION_TIMEOUT_SECS" = some text) : Denotes text n.toNat := by
  cases h with
  | kept unset => cases set.symm.trans unset
  | given set' denotes =>
    cases set.symm.trans set'
    exact denotes

theorem Timed.unique {n m : UInt64} (h : s.Timed lookup n) (h' : s.Timed lookup m) : n = m := by
  cases h with
  | kept unset =>
    cases h' with
    | kept => rfl
    | given set => cases unset.symm.trans set
  | given set denotes =>
    exact Option.some.inj
      ((seconds?_eq_some.2 denotes).symm.trans (seconds?_eq_some.2 (h'.denotes set)))

/-! ### What can be used -/

theorem validate_eq_ok : s.validate = .ok t ↔ t = s ∧ s.Usable := by
  unfold validate
  split
  · rename_i blank
    refine iff_of_false nofun fun h => ?_
    rw [h.2.baseUrl] at blank
    cases blank
  · rename_i filled
    split
    · rename_i zero
      refine iff_of_false nofun fun h => ?_
      have positive := h.2.timeout
      rw [zero] at positive
      exact absurd positive (lt_irrefl 0)
    · rename_i positive
      have usable : s.Usable := ⟨by simpa using filled, UInt64.pos_iff_ne_zero.2 positive⟩
      exact ⟨fun h => ⟨(Except.ok.inj h).symm, usable⟩, fun h => by rw [h.1]⟩

theorem validate_eq_error : s.validate = .error e ↔
    e = .blankBaseUrl ∧ Text.allBlank s.baseUrl = true ∨
      e = .zeroTimeout ∧ Text.allBlank s.baseUrl = false ∧ s.timeoutSecs = 0 := by
  unfold validate
  cases Text.allBlank s.baseUrl with
  | true => simp [eq_comm]
  | false =>
    by_cases zero : s.timeoutSecs = 0
    · simp [zero, eq_comm]
    · simp [zero]

theorem load_usable {contents : Option ByteArray} (h : load contents = .ok s) : s.Usable := by
  unfold load at h
  split at h
  · cases h
    exact ⟨by decide, by decide⟩
  · split at h
    · cases h
    · split at h
      · cases h
      · rename_i read _
        cases valid : read.validate with
        | error e => rw [valid] at h; cases h
        | ok t =>
          rw [valid] at h
          cases h
          obtain ⟨rfl, usable⟩ := validate_eq_ok.1 valid
          exact usable

/-! ### Overrides -/

/-- The settings with the variables that are set, and with a timeout. -/
def overriding (s : Settings) (lookup : String → Option String) (timeout : UInt64) : Settings :=
  { s with
    baseUrl := (lookup "GENERATION_API_URL").getD s.baseUrl
    apiKey := match lookup "GENERATION_API_KEY" with
      | some key => if key = "" then none else some key
      | none => s.apiKey
    timeoutSecs := timeout }

theorem overridden_iff :
    s.Overridden lookup t ↔ s.Timed lookup t.timeoutSecs ∧
      t = s.overriding lookup t.timeoutSecs := by
  constructor
  · rintro ⟨baseUrl, key, keyless, keyKept, timeout, uploadPath, preprocessPath⟩
    have apiKey : t.apiKey = (s.overriding lookup t.timeoutSecs).apiKey := by
      cases set : lookup "GENERATION_API_KEY" with
      | none => simp only [overriding, set, keyKept set]
      | some value =>
        by_cases empty : value = ""
        · simp only [overriding, set, keyless (empty ▸ set), empty, ↓reduceIte]
        · simp only [overriding, set, key value set empty, empty, ↓reduceIte]
    exact ⟨timeout, Settings.ext baseUrl apiKey rfl uploadPath preprocessPath⟩
  · rintro ⟨timeout, same⟩
    refine ⟨by rw [same]; rfl, fun key set filled => ?_, fun set => ?_, fun unset => ?_, timeout,
      by rw [same]; rfl, by rw [same]; rfl⟩
    · rw [same]
      simp only [overriding, set, filled, ↓reduceIte]
    · rw [same]
      simp only [overriding, set, ↓reduceIte]
    · rw [same]
      simp only [overriding, unset]

/-- Either the timeout is no number, or the settings with the overrides are checked. -/
theorem withOverrides_cases (s : Settings) (lookup : String → Option String) :
    (∃ text, lookup "GENERATION_TIMEOUT_SECS" = some text ∧ (∀ n : UInt64, ¬ Denotes text n.toNat) ∧
      s.withOverrides lookup = .error (.badTimeout text)) ∨
    ∃ n, s.Timed lookup n ∧ s.withOverrides lookup = (s.overriding lookup n).validate := by
  cases set : lookup "GENERATION_TIMEOUT_SECS" with
  | none =>
    refine .inr ⟨s.timeoutSecs, .kept set, ?_⟩
    cases url : lookup "GENERATION_API_URL" <;> cases key : lookup "GENERATION_API_KEY" <;>
      simp only [withOverrides, overriding, set, url, key] <;> rfl
  | some text =>
    cases number : seconds? text with
    | none =>
      refine .inl ⟨text, rfl, fun n denotes => ?_, ?_⟩
      · cases number.symm.trans (seconds?_eq_some.2 denotes)
      · simp only [withOverrides, set, number]
        rfl
    | some n =>
      refine .inr ⟨n, .given set (seconds?_eq_some.1 number), ?_⟩
      cases url : lookup "GENERATION_API_URL" <;> cases key : lookup "GENERATION_API_KEY" <;>
        simp only [withOverrides, overriding, set, number, url, key] <;> rfl

theorem withOverrides_eq_ok :
    s.withOverrides lookup = .ok t ↔ s.Overridden lookup t ∧ t.Usable := by
  rw [overridden_iff]
  obtain ⟨text, set, wrong, failed⟩ | ⟨n, timed, checked⟩ := s.withOverrides_cases lookup
  · rw [failed]
    exact iff_of_false nofun fun h => wrong _ (h.1.1.denotes set)
  · rw [checked, validate_eq_ok]
    constructor
    · rintro ⟨rfl, usable⟩
      exact ⟨⟨timed, rfl⟩, usable⟩
    · rintro ⟨⟨timed', same⟩, usable⟩
      rw [timed'.unique timed] at same
      exact ⟨same, same ▸ usable⟩

theorem withOverrides_eq_error : s.withOverrides lookup = .error e ↔ s.Refuses lookup e := by
  obtain ⟨text, set, wrong, failed⟩ | ⟨n, timed, checked⟩ := s.withOverrides_cases lookup
  · rw [failed]
    constructor
    · rintro ⟨⟩
      exact .badTimeout set wrong
    · intro h
      cases h with
      | badTimeout set' =>
        cases set.symm.trans set'
        rfl
      | blankBaseUrl timed => exact absurd (timed.denotes set) (wrong _)
      | zeroTimeout timed => exact absurd (timed.denotes set) (wrong _)
  · rw [checked, validate_eq_error]
    constructor
    · rintro (⟨rfl, blank⟩ | ⟨rfl, filled, zero⟩)
      · exact .blankBaseUrl timed blank
      · have zero : n = 0 := zero
        exact .zeroTimeout (zero ▸ timed) filled
    · intro h
      cases h with
      | badTimeout set wrong => exact absurd (timed.denotes set) (wrong n)
      | blankBaseUrl _ blank => exact .inl ⟨rfl, blank⟩
      | zeroTimeout none filled => exact .inr ⟨rfl, filled, timed.unique none⟩

/-- Overrides that have been applied are applied already. -/
theorem Overridden.again (h : s.Overridden lookup t) : t.Overridden lookup t where
  baseUrl := by
    rw [h.baseUrl]
    cases lookup "GENERATION_API_URL" <;> rfl
  key := h.key
  keyless := h.keyless
  keyKept _ := rfl
  timeout := by
    cases set : lookup "GENERATION_TIMEOUT_SECS" with
    | none => exact .kept set
    | some text => exact .given set (h.timeout.denotes set)
  uploadPath := rfl
  preprocessPath := rfl

/-- Overrides fail just if the timeout is set and is no number of 64 bits, or the base URL comes out
blank, or the timeout comes out zero. Otherwise each variable that is set counts and all else is
kept, and the same overrides change nothing more. Settings that are loaded or overridden can be
used. -/
theorem overrides_settle (s : Settings) (lookup : String → Option String) :
    ((∃ e, s.withOverrides lookup = .error e) ↔
      (∃ text, lookup "GENERATION_TIMEOUT_SECS" = some text ∧
        ∀ n : UInt64, ¬ Denotes text n.toNat) ∨
      Text.allBlank ((lookup "GENERATION_API_URL").getD s.baseUrl) = true ∨ s.Timed lookup 0) ∧
    (∀ e, s.withOverrides lookup = .error e ↔ s.Refuses lookup e) ∧
    (∀ t, s.withOverrides lookup = .ok t ↔ s.Overridden lookup t ∧ t.Usable) ∧
    (∀ t, s.withOverrides lookup = .ok t → t.withOverrides lookup = .ok t) ∧
    ∀ contents t, load contents = .ok t → t.Usable := by
  refine ⟨?_, fun _ => withOverrides_eq_error, fun _ => withOverrides_eq_ok, fun t ok => ?_,
    fun _ _ => load_usable⟩
  · constructor
    · rintro ⟨e, failed⟩
      cases withOverrides_eq_error.1 failed with
      | badTimeout set wrong => exact .inl ⟨_, set, wrong⟩
      | blankBaseUrl _ blank => exact .inr (.inl blank)
      | zeroTimeout none => exact .inr (.inr none)
    · intro fault
      cases outcome : s.withOverrides lookup with
      | error e => exact ⟨e, rfl⟩
      | ok t =>
        obtain ⟨overridden, usable⟩ := withOverrides_eq_ok.1 outcome
        obtain ⟨text, set, wrong⟩ | blank | none := fault
        · exact absurd (overridden.timeout.denotes set) (wrong _)
        · rw [← overridden.baseUrl, usable.baseUrl] at blank
          cases blank
        · exact absurd (overridden.timeout.unique none) (UInt64.pos_iff_ne_zero.1 usable.timeout)
  · obtain ⟨overridden, usable⟩ := withOverrides_eq_ok.1 ok
    exact withOverrides_eq_ok.2 ⟨overridden.again, usable⟩

/-- Settings that cannot be used are mended by their overrides; with a timeout that does not fit 64
bits nothing comes out. -/
theorem overrides_settle_mended :
    let s : Settings := { baseUrl := " ", apiKey := some "old", timeoutSecs := 0 }
    let lookup (timeout name : String) : Option String :=
      [("GENERATION_API_URL", "http://h"), ("GENERATION_API_KEY", ""),
        ("GENERATION_TIMEOUT_SECS", timeout)].lookup name
    (∃ t, s.withOverrides (lookup " +030\n") = .ok t ∧ t.baseUrl = "http://h" ∧ t.apiKey = none ∧
      t.timeoutSecs = 30 ∧ t.Usable ∧ t.withOverrides (lookup " +030\n") = .ok t) ∧
    ∃ e, s.withOverrides (lookup "18446744073709551616") = .error e := by
  intro s lookup
  obtain ⟨-, -, settled, again, -⟩ := s.overrides_settle (lookup " +030\n")
  obtain ⟨fails, -⟩ := s.overrides_settle (lookup "18446744073709551616")
  have ok : s.withOverrides (lookup " +030\n") =
      .ok { baseUrl := "http://h", timeoutSecs := 30 } := by
    decide +kernel
  refine ⟨⟨_, ok, rfl, rfl, rfl, ((settled _).1 ok).2, again _ ok⟩, fails.2 (.inl ⟨_, rfl, ?_⟩)⟩
  intro n denotes
  have none : seconds? "18446744073709551616" = none := by decide
  cases none.symm.trans (seconds?_eq_some.2 denotes)

end Settings

end ImageGraph.Client
