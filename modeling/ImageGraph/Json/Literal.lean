import ImageGraph.Decimal.Reading
import ImageGraph.Json.Basic

/-!
The number that a JSON literal stands for. A literal with a point or an exponent, or too large for
64 bits, is a float: the digits that fit an unsigned word times or divided by one power of ten.
-/

namespace ImageGraph

/-- The parts of a number literal; a literal without a point has no fraction digits. -/
structure Literal where
  negative : Bool
  whole : List Char
  fraction : List Char
  exponent : Option Int

namespace Literal

/-- Appends digits to `n` for as long as the result fits an unsigned word; gives the digits left
over. -/
def absorb (n : Nat) : List Char → Nat × List Char
  | [] => (n, [])
  | c :: digits =>
    let next := 10 * n + (c.toNat - 48)
    if next < UInt64.size then absorb next digits else (n, c :: digits)

def powerOfTen (n : Nat) : Float :=
  Float.ofScientific 1 false n

/-- The float `x * 10 ^ e`, unless it is too large. A power that is no float is divided by in
steps. -/
def scale? (x : Float) (e : Int) : Option Float :=
  if x == 0.0 then some x
  else if 308 < e then none
  else if 0 ≤ e then
    let y := x * powerOfTen e.toNat
    if y.isInf then none else some y
  else if -308 ≤ e then some (x / powerOfTen (-e).toNat)
  else scale? (x / powerOfTen 308) (e + 308)
termination_by e.natAbs

/-- The value of a literal, unless it is out of range. Whole digits beyond a word raise the
exponent; fraction digits beyond it are dropped. -/
def number? (l : Literal) : Option Number :=
  let (n, left) := absorb 0 l.whole
  if l.fraction = [] ∧ l.exponent = none ∧ left = [] ∧
      (l.negative = false ∨ 0 < n ∧ n ≤ 1 <<< 63) then
    some (.int (if l.negative then -n else n))
  else
    let (m, dropped) := absorb n l.fraction
    let e := l.exponent.getD 0 + left.length - (l.fraction.length - dropped.length : Nat)
    (scale? (UInt64.ofNat m).toFloat e).map fun x => .float (if l.negative then -x else x)

end Literal

end ImageGraph
