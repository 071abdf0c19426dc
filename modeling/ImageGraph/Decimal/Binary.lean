/-!
The binary numbers behind a 64-bit float: a significand times a power of two.
-/

namespace ImageGraph.Decimal

/-- The number `significand * 2 ^ exponent`. -/
structure Binary where
  significand : Nat
  exponent : Int
  deriving Repr, DecidableEq

/-- What a float stands for, its sign apart. -/
inductive Magnitude where
  | notANumber
  | infinite
  | zero
  | finite (b : Binary)
  deriving Repr, DecidableEq

/-- The leading bit of a significand; the fraction field leaves it out. -/
def hiddenBit : Nat := 1 <<< 52

def isNegative (x : Float) : Bool :=
  1 <<< 63 ≤ x.toBits.toNat

/-- Reads the exponent and fraction fields; a zero exponent field has no hidden bit. -/
def magnitude (x : Float) : Magnitude :=
  let fraction : Nat := x.toBits.toNat % hiddenBit
  let field : Nat := x.toBits.toNat / hiddenBit % 2048
  if field = 2047 then if fraction = 0 then .infinite else .notANumber
  else if field = 0 then if fraction = 0 then .zero else .finite ⟨fraction, -1074⟩
  else .finite ⟨hiddenBit + fraction, (field : Int) - 1075⟩

end ImageGraph.Decimal
