import ImageGraph.Base64
import ImageGraph.Text.Blank

/-! Base64 has one written form for each byte string: what is written is read back, and nothing else
is read. Its characters are letters of the alphabet and padding, so no blank and no colon is among
them. -/

namespace ImageGraph.Base64

/-! ### Letters -/

/-- The letters of the alphabet, in the order of what they stand for. -/
theorem map_letter_range :
    (List.range 64).map letter =
      "ABCDEFGHIJKLMNOPQRSTUVWXYZabcdefghijklmnopqrstuvwxyz0123456789+/".toList := by
  decide

theorem bits?_letter {n : Nat} (h : n < 64) : bits? (letter n) = some n := by
  have all : ∀ m ∈ List.range 64, bits? (letter m) = some m := by decide
  exact all n (List.mem_range.2 h)

theorem bits?_eq_some {c : Char} {n : Nat} (h : bits? c = some n) : n < 64 ∧ c = letter n := by
  have whole : Char.ofNat c.toNat = c := Char.ofNat_toNat c
  unfold bits? at h
  split at h
  · rename_i range
    cases h
    have low : 65 ≤ c.toNat := range.1
    have high : c.toNat ≤ 90 := range.2
    refine ⟨by omega, ?_⟩
    rw [letter, if_pos (by omega), show 65 + (c.toNat - 65) = c.toNat by omega, whole]
  split at h
  · rename_i range
    cases h
    have low : 97 ≤ c.toNat := range.1
    have high : c.toNat ≤ 122 := range.2
    refine ⟨by omega, ?_⟩
    rw [letter, if_neg (by omega), if_pos (by omega), show 71 + (c.toNat - 71) = c.toNat by omega,
      whole]
  split at h
  · rename_i range
    cases h
    have low : 48 ≤ c.toNat := range.1
    have high : c.toNat ≤ 57 := range.2
    refine ⟨by omega, ?_⟩
    rw [letter, if_neg (by omega), if_neg (by omega), if_pos (by omega),
      show c.toNat + 4 - 4 = c.toNat by omega, whole]
  split at h
  · cases h
    exact ⟨by omega, ‹_›⟩
  split at h
  · cases h
    exact ⟨by omega, ‹_›⟩
  · cases h

theorem letter_ne_padding {n : Nat} (h : n < 64) : letter n ≠ '=' := by
  intro same
  have none := bits?_letter h
  rw [same] at none
  cases none

/-! ### Reading what is written -/

/-- Four letters stand for three bytes, whatever follows. -/
theorem decode?_letters {x y z w : Nat} (hx : x < 64) (hy : y < 64) (hz : z < 64) (hw : w < 64)
    (rest : List Char) :
    decode? (letter x :: letter y :: letter z :: letter w :: rest) =
      (decode? rest).map fun bytes => .ofNat (x * 4 + y / 16) ::
        .ofNat (y % 16 * 16 + z / 4) :: .ofNat (z % 4 * 64 + w) :: bytes := by
  rw [decode?.eq_4 _ _ _ _ _ (fun pad => absurd pad (letter_ne_padding hz))
    (fun pad => absurd pad (letter_ne_padding hw)),
    bits?_letter hx, bits?_letter hy, bits?_letter hz, bits?_letter hw]
  cases decode? rest <;> rfl

theorem decode?_encode (bytes : List UInt8) : decode? (encode bytes) = some bytes := by
  fun_induction encode bytes with
  | case1 => rfl
  | case2 a =>
    have ha := a.toNat_lt
    have whole : a.toNat / 4 * 4 + a.toNat % 4 * 16 / 16 = a.toNat := by omega
    have spare : a.toNat % 4 * 16 % 16 = 0 := by omega
    rw [decode?, bits?_letter (by omega), bits?_letter (by omega)]
    simp only [Option.bind_eq_bind, Option.bind_some, spare, ne_eq, not_true_eq_false, ↓reduceIte,
      whole, UInt8.ofNat_toNat]
    rfl
  | case3 a b =>
    have ha := a.toNat_lt
    have hb := b.toNat_lt
    have first : a.toNat / 4 * 4 + (a.toNat % 4 * 16 + b.toNat / 16) / 16 = a.toNat := by omega
    have second : (a.toNat % 4 * 16 + b.toNat / 16) % 16 * 16 + b.toNat % 16 * 4 / 4 = b.toNat := by
      omega
    have spare : b.toNat % 16 * 4 % 4 = 0 := by omega
    rw [decode?, bits?_letter (by omega), bits?_letter (by omega), bits?_letter (by omega)]
    · simp only [Option.bind_eq_bind, Option.bind_some, spare, ne_eq, not_true_eq_false, ↓reduceIte,
        first, second, UInt8.ofNat_toNat]
      rfl
    · exact letter_ne_padding (by omega)
  | case4 a b c rest ih =>
    have ha := a.toNat_lt
    have hb := b.toNat_lt
    have hc := c.toNat_lt
    have first : a.toNat / 4 * 4 + (a.toNat % 4 * 16 + b.toNat / 16) / 16 = a.toNat := by omega
    have second : (a.toNat % 4 * 16 + b.toNat / 16) % 16 * 16 +
        (b.toNat % 16 * 4 + c.toNat / 64) / 4 = b.toNat := by omega
    have third : (b.toNat % 16 * 4 + c.toNat / 64) % 4 * 64 + c.toNat % 64 = c.toNat := by omega
    rw [decode?_letters (by omega) (by omega) (by omega) (by omega), ih]
    simp only [Option.map_some, first, second, third, UInt8.ofNat_toNat]

theorem eq_encode_of_decode? {text : List Char} {bytes : List UInt8}
    (h : decode? text = some bytes) : text = encode bytes := by
  fun_induction decode? text generalizing bytes with
  | case1 =>
    cases h
    rfl
  | case2 a b =>
    simp only [Option.bind_eq_bind, Option.bind_eq_some_iff] at h
    obtain ⟨x, hx, y, hy, h⟩ := h
    split at h
    · cases h
    · rename_i spare
      cases h
      obtain ⟨hx, rfl⟩ := bits?_eq_some hx
      obtain ⟨hy, rfl⟩ := bits?_eq_some hy
      have first : (x * 4 + y / 16) % 2 ^ 8 / 4 = x := by omega
      have second : (x * 4 + y / 16) % 2 ^ 8 % 4 * 16 = y := by omega
      rw [encode, UInt8.toNat_ofNat', first, second]
  | case3 a b c _ =>
    simp only [Option.bind_eq_bind, Option.bind_eq_some_iff] at h
    obtain ⟨x, hx, y, hy, z, hz, h⟩ := h
    split at h
    · cases h
    · rename_i spare
      cases h
      obtain ⟨hx, rfl⟩ := bits?_eq_some hx
      obtain ⟨hy, rfl⟩ := bits?_eq_some hy
      obtain ⟨hz, rfl⟩ := bits?_eq_some hz
      have first : (x * 4 + y / 16) % 2 ^ 8 / 4 = x := by omega
      have second : (x * 4 + y / 16) % 2 ^ 8 % 4 * 16 + (y % 16 * 16 + z / 4) % 2 ^ 8 / 16 = y := by
        omega
      have third : (y % 16 * 16 + z / 4) % 2 ^ 8 % 16 * 4 = z := by omega
      rw [encode, UInt8.toNat_ofNat', UInt8.toNat_ofNat', first, second, third]
  | case4 a b c d rest _ _ ih =>
    simp only [Option.bind_eq_bind, Option.bind_eq_some_iff] at h
    obtain ⟨x, hx, y, hy, z, hz, w, hw, later, hl, h⟩ := h
    cases h
    obtain ⟨hx, rfl⟩ := bits?_eq_some hx
    obtain ⟨hy, rfl⟩ := bits?_eq_some hy
    obtain ⟨hz, rfl⟩ := bits?_eq_some hz
    obtain ⟨hw, rfl⟩ := bits?_eq_some hw
    have first : (x * 4 + y / 16) % 2 ^ 8 / 4 = x := by omega
    have second : (x * 4 + y / 16) % 2 ^ 8 % 4 * 16 + (y % 16 * 16 + z / 4) % 2 ^ 8 / 16 = y := by
      omega
    have third : (y % 16 * 16 + z / 4) % 2 ^ 8 % 16 * 4 + (z % 4 * 64 + w) % 2 ^ 8 / 64 = z := by
      omega
    have fourth : (z % 4 * 64 + w) % 2 ^ 8 % 64 = w := by omega
    rw [encode, ih hl, UInt8.toNat_ofNat', UInt8.toNat_ofNat', UInt8.toNat_ofNat', first, second,
      third, fourth]
  | case5 => cases h

theorem decode?_eq_some_iff {text : List Char} {bytes : List UInt8} :
    decode? text = some bytes ↔ text = encode bytes :=
  ⟨eq_encode_of_decode?, fun h => h ▸ decode?_encode bytes⟩

/-! ### The characters that are written -/

theorem mem_encode {bytes : List UInt8} {c : Char} (h : c ∈ encode bytes) :
    c = '=' ∨ ∃ n < 64, c = letter n := by
  fun_induction encode bytes with
  | case1 => cases h
  | case2 a =>
    have ha := a.toNat_lt
    simp only [List.mem_cons, List.not_mem_nil, or_false] at h
    obtain rfl | rfl | rfl | rfl := h
    · exact .inr ⟨_, by omega, rfl⟩
    · exact .inr ⟨_, by omega, rfl⟩
    · exact .inl rfl
    · exact .inl rfl
  | case3 a b =>
    have ha := a.toNat_lt
    have hb := b.toNat_lt
    simp only [List.mem_cons, List.not_mem_nil, or_false] at h
    obtain rfl | rfl | rfl | rfl := h
    · exact .inr ⟨_, by omega, rfl⟩
    · exact .inr ⟨_, by omega, rfl⟩
    · exact .inr ⟨_, by omega, rfl⟩
    · exact .inl rfl
  | case4 a b c rest ih =>
    have ha := a.toNat_lt
    have hb := b.toNat_lt
    have hc := c.toNat_lt
    simp only [List.mem_cons] at h
    obtain rfl | rfl | rfl | rfl | h := h
    · exact .inr ⟨_, by omega, rfl⟩
    · exact .inr ⟨_, by omega, rfl⟩
    · exact .inr ⟨_, by omega, rfl⟩
    · exact .inr ⟨_, by omega, rfl⟩
    · exact ih h

theorem plain_of_mem_encode {bytes : List UInt8} {c : Char} (h : c ∈ encode bytes) :
    Text.isBlank c = false ∧ c ≠ ':' := by
  have all : ∀ n ∈ List.range 64, Text.isBlank (letter n) = false ∧ letter n ≠ ':' := by decide
  obtain rfl | ⟨n, hn, rfl⟩ := mem_encode h
  · exact ⟨by decide, by decide⟩
  · exact all n (List.mem_range.2 hn)

end ImageGraph.Base64
