import ImageGraph.Decimal.Shortest

/-!
How a float is written. The digits are always the shortest that read back; a layout says where the
point or an exponent goes.
-/

namespace ImageGraph.Decimal

structure Layout where
  tie : Tie
  /-- Whether a number whose first digit counts `10 ^ n` is written without an exponent. -/
  inFull : Int → Bool
  /-- What follows a whole number that is written without an exponent. -/
  wholeEnding : String

/-- Data: an exponent from `1e+16` up and below `1e-5`, and a whole number ends in `.0`. -/
def Layout.data : Layout where
  tie := .toEven
  inFull := fun n => -5 ≤ n && n < 16
  wholeEnding := ".0"

/-- Prose: never an exponent, and a whole number has no fraction. -/
def Layout.prose : Layout where
  tie := .up
  inFull := fun _ => true
  wholeEnding := ""

def zeros (n : Nat) : String :=
  String.ofList (List.replicate n '0')

/-- Digits with the point after the first `p` of them. -/
def Layout.pointed (l : Layout) (digits : List Char) (p : Int) : String :=
  if p ≤ 0 then "0." ++ zeros (-p).toNat ++ String.ofList digits
  else if digits.length ≤ p.toNat then
    String.ofList digits ++ zeros (p.toNat - digits.length) ++ l.wholeEnding
  else String.ofList (digits.take p.toNat) ++ "." ++ String.ofList (digits.drop p.toNat)

/-- One digit, the others after a point, and a signed exponent. -/
def scientific (digits : List Char) (n : Int) : String :=
  String.ofList (digits.take 1) ++
    (if digits.length ≤ 1 then "" else "." ++ String.ofList (digits.drop 1)) ++
    (if n < 0 then "e-" else "e+") ++ toString n.natAbs

def Layout.decimal (l : Layout) (d : Numeral) : String :=
  let digits := Nat.toDigits 10 d.digits
  let p := d.exponent + digits.length
  if l.inFull (p - 1) then l.pointed digits p else scientific digits (p - 1)

/-- The text of a float: a minus sign also before zero, and names for what is not finite. -/
def Layout.text (l : Layout) (x : Float) : String :=
  let sign := if isNegative x then "-" else ""
  match magnitude x with
  | .notANumber => "NaN"
  | .infinite => sign ++ "inf"
  | .zero => sign ++ "0" ++ l.wholeEnding
  | .finite b => sign ++ l.decimal (shortest l.tie b)

end ImageGraph.Decimal
