/-!
Reading a float from text: a sign, then digits with an optional point and exponent, or a name for
infinity or not-a-number in any case.
-/

namespace ImageGraph.Decimal

/-- The digits that a text begins with, and the rest. -/
def digitsOf (s : List Char) : List Char × List Char :=
  (s.takeWhile Char.isDigit, s.dropWhile Char.isDigit)

/-- The number that a list of decimal digits stands for. -/
def value (digits : List Char) : Nat :=
  digits.foldl (fun n c => 10 * n + (c.toNat - 48)) 0

/-- The float nearest to `digits * 10 ^ exponent`. Beyond four hundred places the answer is known
without computing the power. -/
def nearest (digits : Nat) (exponent : Int) : Float :=
  let size := exponent + (Nat.toDigits 10 digits).length
  if digits = 0 ∨ size < -400 then 0.0
  else if 400 < size then Float.ofScientific 1 false 400
  else Float.ofScientific digits (decide (exponent < 0)) exponent.natAbs

/-- Removes a sign; true stands for minus. -/
def signed : List Char → Bool × List Char
  | '-' :: s => (true, s)
  | '+' :: s => (false, s)
  | s => (false, s)

/-- The exponent after the digits: nothing, or the letter e and a whole number. -/
def exponent? : List Char → Option Int
  | [] => some 0
  | c :: s =>
    let (negative, s) := signed s
    let (digits, rest) := digitsOf s
    if c.toLower = 'e' ∧ digits ≠ [] ∧ rest = [] then
      some (if negative then -(value digits : Int) else value digits)
    else none

/-- An unsigned number; one of the sides of the point may be empty. -/
def unsigned? (s : List Char) : Option Float :=
  let (whole, s) := digitsOf s
  let (fraction, s) := match s with
    | '.' :: s => digitsOf s
    | s => ([], s)
  if whole = [] ∧ fraction = [] then none
  else (exponent? s).map fun e => nearest (value (whole ++ fraction)) (e - fraction.length)

def named? (s : List Char) : Option Float :=
  match String.ofList (s.map Char.toLower) with
  | "inf" | "infinity" => some (1.0 / 0.0)
  | "nan" => some (0.0 / 0.0)
  | _ => none

/-- The float that a text denotes, if it denotes one. -/
def float? (s : List Char) : Option Float :=
  let (negative, s) := signed s
  (named? s <|> unsigned? s).map fun x => if negative then -x else x

end ImageGraph.Decimal
