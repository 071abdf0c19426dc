/-!
Hexadecimal digits and the numbers that they write.
-/

namespace ImageGraph.Text.Hex

/-- The value of a digit, in small or capital letters. -/
def value? (c : Char) : Option Nat :=
  if c.isDigit then some (c.toNat - 48)
  else if 'a' ≤ c ∧ c ≤ 'f' then some (c.toNat - 87)
  else if 'A' ≤ c ∧ c ≤ 'F' then some (c.toNat - 55)
  else none

/-- The digit for a number below 16, in small letters. -/
def digit (n : Nat) : Char :=
  if n < 10 then Char.ofNat (48 + n) else Char.ofNat (87 + n)

/-- The number that digits of a base up to 16 stand for. -/
def number? (base : Nat) (digits : List Char) : Option Nat :=
  digits.foldl (fun n c => do
    let n ← n
    let d ← value? c
    if d < base then some (n * base + d) else none) (some 0)

end ImageGraph.Text.Hex
