import Mathlib.Data.List.Basic

/-! Texts in the order of their bytes. The encoding of a character tells how long it is by its first
byte and keeps the order of code points, so texts are ordered alike by bytes and by characters. -/

namespace ImageGraph.Text

/-- The bytes of a text in UTF-8. -/
def bytes (s : String) : List UInt8 :=
  s.toByteArray.data.toList

theorem bytes_eq (s : String) : bytes s = s.toList.flatMap String.utf8EncodeChar := by
  rw [bytes, ← s.ofList_toList, String.toByteArray_ofList, List.utf8Encode]
  simp

theorem ofNat_cons_lt {m n : Nat} (hm : m < 256) (hn : n < 256) (x y : List UInt8) :
    UInt8.ofNat m :: x < UInt8.ofNat n :: y ↔ m < n ∨ m = n ∧ x < y := by
  rw [List.cons_lt_cons_iff, UInt8.lt_iff_toNat_lt, ← UInt8.toNat_inj,
    UInt8.toNat_ofNat_of_lt' hm, UInt8.toNat_ofNat_of_lt' hn]

/-- A lower character has lower bytes, whatever comes after either. -/
theorem utf8EncodeChar_append_lt {c d : Char} (h : c < d) (x y : List UInt8) :
    String.utf8EncodeChar c ++ x < String.utf8EncodeChar d ++ y := by
  have lower : c.val.toNat < d.val.toNat := h
  have valid : d.val.toNat < 0x110000 := by
    obtain below | ⟨-, below⟩ := d.valid <;> omega
  -- The digits of a code point in base 64 are taken one after the other.
  have second (v : Nat) : v / 4096 = v / 64 / 64 := by omega
  have third (v : Nat) : v / 262144 = v / 64 / 64 / 64 := by omega
  fun_cases String.utf8EncodeChar c <;> fun_cases String.utf8EncodeChar d <;>
    simp (disch := omega) only [List.cons_append, List.nil_append, ofNat_cons_lt, second, third] <;>
    omega

theorem flatMap_utf8EncodeChar_lt {cs ds : List Char} (h : cs < ds) :
    cs.flatMap String.utf8EncodeChar < ds.flatMap String.utf8EncodeChar := by
  induction h with
  | @nil d ds =>
    rw [List.flatMap_nil, List.flatMap_cons]
    obtain ⟨first, rest, encoded⟩ := List.exists_cons_of_ne_nil String.utf8EncodeChar_ne_nil
    rw [encoded]
    exact List.nil_lt_cons _ _
  | rel lower => exact utf8EncodeChar_append_lt lower _ _
  | cons _ ih => exact List.append_left_lt ih

/-- Bytes and characters give one order. -/
theorem bytes_lt_iff (s t : String) : bytes s < bytes t ↔ s < t := by
  rw [bytes_eq, bytes_eq]
  refine ⟨fun h => ?_, fun h => flatMap_utf8EncodeChar_lt h⟩
  by_contra other
  by_cases later : t < s
  · exact List.lt_asymm h (flatMap_utf8EncodeChar_lt later)
  · obtain rfl := String.le_antisymm (String.not_lt.1 later) (String.not_lt.1 other)
    exact List.lt_irrefl _ h

end ImageGraph.Text
