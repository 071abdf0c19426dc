import ImageGraph.Rehearsal.Web.Parts

/-!
Punycode: texts in letters, digits and hyphens. The characters outside ASCII are taken out and
follow the rest, in ascending order, as the gaps between their places, in a notation whose base
adapts to the gaps.
-/

namespace ImageGraph.Web.Punycode

def digit (n : Nat) : Char :=
  if n < 26 then Char.ofNat (97 + n) else Char.ofNat (22 + n)

/-- Below this value a digit ends its number. -/
def threshold (bias place : Nat) : Nat :=
  min 26 (max 1 (place - bias))

def digitValue? (c : Char) : Option Nat :=
  if 'a' ≤ c ∧ c ≤ 'z' then some (c.toNat - 97)
  else if '0' ≤ c ∧ c ≤ '9' then some (c.toNat - 22)
  else none

/-- A gap, its least significant digit first; places count in steps of 36. -/
def digits (bias place gap : Nat) : List Char :=
  let t := threshold bias place
  if gap < t then [digit gap]
  else digit (t + (gap - t) % (36 - t)) :: digits bias (place + 36) ((gap - t) / (36 - t))
termination_by gap
decreasing_by
  have : 1 ≤ threshold bias place := by unfold threshold; omega
  exact Nat.lt_of_le_of_lt (Nat.div_le_self _ _) (by omega)

def settleBias (gap bias : Nat) : Nat :=
  if 455 < gap then settleBias (gap / 35) (bias + 36) else bias + 36 * gap / (gap + 38)
termination_by gap

/-- The bias after a gap, the first or not, with `written` characters in their places. -/
def adapt (gap written : Nat) (first : Bool) : Nat :=
  let gap := if first then gap / 700 else gap / 2
  settleBias (gap + gap / written) 0

structure Progress where
  gap : Nat := 0
  bias : Nat := 72
  /-- How many characters are in their places. -/
  written : Nat
  out : List Char := []

/-- Passes a character of the label while `next` is the one to be written. -/
def pass (next : Char) (plain : Nat) (p : Progress) (c : Char) : Progress :=
  if c < next then { p with gap := p.gap + 1 }
  else if c = next then
    { gap := 0, bias := adapt p.gap (p.written + 1) (p.written == plain), written := p.written + 1,
      out := p.out ++ digits p.bias 36 p.gap }
  else p

/-- Writes the given characters, which ascend, from code point `start` on. -/
def write (label : List Char) (plain start : Nat) (p : Progress) : List Char → List Char
  | [] => p.out
  | next :: rest =>
    let p := { p with gap := p.gap + (next.toNat - start) * (p.written + 1) }
    let p := label.foldl (pass next plain) p
    write label plain (next.toNat + 1) { p with gap := p.gap + 1 } rest

def isAscii (c : Char) : Bool :=
  c.toNat < 128

def encode (text : List Char) : List Char :=
  let plain := text.filter isAscii
  let others := (text.filter fun c => !isAscii c).mergeSort.eraseReps
  plain ++ (if plain.isEmpty then [] else ['-']) ++
    write text plain.length 128 { written := plain.length } others

/-- What has been read up to a digit. -/
structure Reader where
  out : List Char
  /-- The code point of the last character that was put in. -/
  code : Nat := 128
  /-- The place behind it. -/
  place : Nat := 0
  bias : Nat := 72
  /-- The value of the digits of the number so far, and the position and weight of the next. -/
  gap : Nat := 0
  position : Nat := 36
  weight : Nat := 1

/-- Puts in the character that the gap leads to. The places in the text are gone through once for
each code point. -/
def Reader.insert? (r : Reader) : Option Reader :=
  let places := r.out.length + 1
  let place := (r.place + r.gap) % places
  let code := r.code + (r.place + r.gap) / places
  if h : code.isValidChar then
    some {
      out := r.out.take place ++ Char.ofNatAux code h :: r.out.drop place
      code
      place := place + 1
      bias := adapt r.gap places (r.place == 0) }
  else none

/-- Reads a digit. Numbers of more than 32 bits are refused. -/
def Reader.next? (r : Reader) (c : Char) : Option Reader := do
  let d ← digitValue? c
  let t := threshold r.bias r.position
  let gap := r.gap + d * r.weight
  if UInt32.size ≤ r.place + gap then none
  else if d < t then Reader.insert? { r with gap }
  else
    let weight := r.weight * (36 - t)
    if UInt32.size ≤ weight then none
    else some { r with gap, position := r.position + 36, weight }

/-- Reads what `encode` writes, which is ASCII. A hyphen that has nothing before it is not the one
that ends the ASCII characters. -/
def decode? (text : List Char) : Option (List Char) := do
  guard (text.all isAscii)
  let start : Reader × List Char := match cutLast '-' text with
    | (some (c :: plain), rest) => ({ out := c :: plain }, rest)
    | _ => ({ out := [] }, text)
  let r ← start.2.foldlM Reader.next? start.1
  if r.position = 36 then some r.out else none

end ImageGraph.Web.Punycode
