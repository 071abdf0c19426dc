import ImageGraph.Decimal.Binary

/-!
The decimal with the fewest digits that reads back as a given float. Comparisons are exact: both
sides are brought to whole numbers first.
-/

namespace ImageGraph.Decimal

/-- The number `digits * 10 ^ exponent`. -/
structure Numeral where
  digits : Nat
  exponent : Int
  deriving Repr, DecidableEq

/-- Which of two equally near candidates is taken. -/
inductive Tie where
  | toEven
  | up
  deriving Repr, DecidableEq

namespace Binary

/-- The least value that still rounds to `b`, in quarters of the last binary place. The gap below
a power of two is half as wide. -/
def low (b : Binary) : Nat :=
  if b.significand = hiddenBit ∧ -1074 < b.exponent then 4 * b.significand - 1
  else 4 * b.significand - 2

/-- The greatest value that still rounds to `b`, in quarters of the last binary place. -/
def high (b : Binary) : Nat :=
  4 * b.significand + 2

/-- Rounding to even gives both ends of the interval to an even significand. -/
def ownsEnds (b : Binary) : Bool :=
  b.significand % 2 = 0

/-- The `p` with `10 ^ (p - 1) ≤ b < 10 ^ p`. -/
def pointPosition (b : Binary) : Int :=
  let scaled := (b.significand * Nat.pow 10 400) <<< b.exponent.toNat >>> (-b.exponent).toNat
  (Nat.toDigits 10 scaled).length - 400

end Binary

/-- A number `t` of quarters of the last place of `b` against `c * 10 ^ e`: the two whole numbers
`t * left` and `c * right` compare as they do. -/
structure Scale where
  left : Nat
  right : Nat

def Scale.of (b : Binary) (e : Int) : Scale where
  left := Nat.pow 10 (-e).toNat <<< (b.exponent - 2).toNat
  right := Nat.pow 10 e.toNat <<< (2 - b.exponent).toNat

/-- Whether `c * 10 ^ e` rounds to `b`. -/
def roundsTo (b : Binary) (s : Scale) (c : Nat) : Bool :=
  if b.ownsEnds then b.low * s.left ≤ c * s.right && c * s.right ≤ b.high * s.left
  else b.low * s.left < c * s.right && c * s.right < b.high * s.left

/-- The nearer of the neighbours `c` and `c + 1` of `b`. -/
def nearer (tie : Tie) (b : Binary) (s : Scale) (c : Nat) : Nat :=
  match compare (2 * (4 * b.significand * s.left)) ((2 * c + 1) * s.right), tie with
  | .lt, _ => c
  | .gt, _ => c + 1
  | .eq, .up => c + 1
  | .eq, .toEven => c + c % 2

/-- The decimal with last place `10 ^ e` that rounds to `b`, if there is one. -/
def onGrid? (tie : Tie) (b : Binary) (e : Int) : Option Numeral :=
  let s := Scale.of b e
  let c := 4 * b.significand * s.left / s.right
  match roundsTo b s c, roundsTo b s (c + 1) with
  | true, true => some ⟨nearer tie b s c, e⟩
  | true, false => some ⟨c, e⟩
  | false, true => some ⟨c + 1, e⟩
  | false, false => none

/-- Drops the zeros at the end of the digits. -/
def Numeral.strip (d : Numeral) : Numeral :=
  if h : d.digits ≠ 0 ∧ d.digits % 10 = 0 then Numeral.strip ⟨d.digits / 10, d.exponent + 1⟩ else d
termination_by d.digits
decreasing_by omega

/-- Seventeen digits always suffice, so the search ends on one of the seventeen grids. -/
def shortest (tie : Tie) (b : Binary) : Numeral :=
  let grids := (List.range 17).map fun n : Nat => b.pointPosition - (n + 1 : Nat)
  ((grids.findSome? (onGrid? tie b)).getD ⟨0, 0⟩).strip

end ImageGraph.Decimal
