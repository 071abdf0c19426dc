import ImageGraph.Json.Literal
import ImageGraph.Text.Hexadecimal

/-!
The tokens of a JSON text. Scanning checks the form alone: a number out of range, or a string whose
escapes name half of a surrogate pair, becomes a token without a value.
-/

namespace ImageGraph

inductive Token where
  | openArray
  | closeArray
  | openObject
  | closeObject
  | comma
  | colon
  | null
  | bool (b : Bool)
  | number (n : Option Number)
  | string (s : Option String)

namespace Token

def isSpace (c : Char) : Bool :=
  c = ' ' || c = '\n' || c = '\t' || c = '\r'

/-- The number that four hexadecimal digits stand for. -/
def hex4? (a b c d : Char) : Option Nat := do
  let high := (← Text.Hex.value? a) * 16 + (← Text.Hex.value? b)
  let low := (← Text.Hex.value? c) * 16 + (← Text.Hex.value? d)
  pure (high * 256 + low)

/-- One item between the quotes: a character, or the sixteen bits of a numeric escape. -/
inductive Piece where
  | char (c : Char)
  | code (n : Nat)

/-- The character of a one-letter escape. -/
def escaped? : Char → Option Char
  | '"' => some '"'
  | '\\' => some '\\'
  | '/' => some '/'
  | 'b' => some '\x08'
  | 'f' => some '\x0c'
  | 'n' => some '\n'
  | 'r' => some '\r'
  | 't' => some '\t'
  | _ => none

/-- The items up to the closing quote, and the rest of the text. -/
def pieces? : List Char → Option (List Piece × List Char)
  | [] => none
  | '"' :: s => some ([], s)
  | '\\' :: 'u' :: a :: b :: c :: d :: s => do
    let n ← hex4? a b c d
    let (ps, rest) ← pieces? s
    pure (.code n :: ps, rest)
  | '\\' :: c :: s => do
    let c ← escaped? c
    let (ps, rest) ← pieces? s
    pure (.char c :: ps, rest)
  | c :: s => do
    if c.toNat < 32 then none
    let (ps, rest) ← pieces? s
    pure (.char c :: ps, rest)

/-- The characters of the items, unless half of a surrogate pair stands alone. -/
def assemble? : List Piece → Option (List Char)
  | [] => some []
  | .char c :: ps => (assemble? ps).map (c :: ·)
  | .code h :: .code l :: ps =>
    if 0xd800 ≤ h ∧ h < 0xdc00 then
      if 0xdc00 ≤ l ∧ l < 0xe000 then
        (assemble? ps).map (Char.ofNat (0x10000 + (h - 0xd800) * 0x400 + (l - 0xdc00)) :: ·)
      else none
    else if 0xdc00 ≤ h ∧ h < 0xe000 then none
    else (assemble? (.code l :: ps)).map (Char.ofNat h :: ·)
  | .code h :: ps =>
    if 0xd800 ≤ h ∧ h < 0xe000 then none else (assemble? ps).map (Char.ofNat h :: ·)

/-- The fraction digits after a point, if there is a point. -/
def fraction? : List Char → Option (List Char × List Char)
  | '.' :: s =>
    match Decimal.digitsOf s with
    | ([], _) => none
    | (digits, rest) => some (digits, rest)
  | s => some ([], s)

/-- The exponent after the letter e, if there is one. -/
def exponent? : List Char → Option (Option Int × List Char)
  | [] => some (none, [])
  | c :: s =>
    if c = 'e' ∨ c = 'E' then
      let (negative, s) := Decimal.signed s
      match Decimal.digitsOf s with
      | ([], _) => none
      | (digits, rest) =>
        let n : Int := Decimal.value digits
        some (some (if negative then -n else n), rest)
    else some (none, c :: s)

/-- The whole digits of a literal; a zero in front stands alone. -/
def whole? (s : List Char) : Option (List Char × List Char) :=
  match Decimal.digitsOf s with
  | ([], _) | ('0' :: _ :: _, _) => none
  | (digits, rest) => some (digits, rest)

/-- A number literal without its sign. -/
def literal? (negative : Bool) (s : List Char) : Option (Literal × List Char) := do
  let (whole, s) ← whole? s
  let (fraction, s) ← fraction? s
  let (exponent, s) ← exponent? s
  pure (⟨negative, whole, fraction, exponent⟩, s)

def number? (negative : Bool) (s : List Char) : Option (Token × List Char) :=
  (literal? negative s).map fun (l, rest) => (number l.number?, rest)

/-- The token that starts with `c`, and the rest of the text. -/
def next? (c : Char) (s : List Char) : Option (Token × List Char) :=
  match c with
  | '[' => some (openArray, s)
  | ']' => some (closeArray, s)
  | '{' => some (openObject, s)
  | '}' => some (closeObject, s)
  | ',' => some (comma, s)
  | ':' => some (colon, s)
  | '"' => (pieces? s).map fun (ps, rest) => (string ((assemble? ps).map String.ofList), rest)
  | '-' => number? true s
  | 'n' => match s with
    | 'u' :: 'l' :: 'l' :: s => some (null, s)
    | _ => none
  | 't' => match s with
    | 'r' :: 'u' :: 'e' :: s => some (bool true, s)
    | _ => none
  | 'f' => match s with
    | 'a' :: 'l' :: 's' :: 'e' :: s => some (bool false, s)
    | _ => none
  | c => number? false (c :: s)

theorem digitsOf_length (s : List Char) : (Decimal.digitsOf s).2.length ≤ s.length :=
  (List.dropWhile_sublist _).length_le

theorem signed_length (s : List Char) : (Decimal.signed s).2.length ≤ s.length := by
  unfold Decimal.signed
  split <;> simp

theorem pieces?_length {s rest : List Char} {ps : List Piece} (h : pieces? s = some (ps, rest)) :
    rest.length ≤ s.length := by
  fun_induction pieces? s generalizing ps rest <;>
    grind [Option.bind_eq_some_iff, List.length_cons]

theorem fraction?_length {s rest digits : List Char} (h : fraction? s = some (digits, rest)) :
    rest.length ≤ s.length := by
  unfold fraction? at h
  grind [digitsOf_length, List.length_cons]

theorem exponent?_length {s rest : List Char} {e : Option Int}
    (h : exponent? s = some (e, rest)) : rest.length ≤ s.length := by
  unfold exponent? at h
  grind [digitsOf_length, signed_length, List.length_cons]

theorem whole?_length {s rest digits : List Char} (h : whole? s = some (digits, rest)) :
    rest.length < s.length := by
  have parts : (Decimal.digitsOf s).1 ++ (Decimal.digitsOf s).2 = s :=
    List.takeWhile_append_dropWhile
  unfold whole? at h
  split at h
  · cases h
  · cases h
  · rename_i nonempty _ eq
    cases h
    rw [eq] at parts
    have := congrArg List.length parts
    have := List.length_pos_iff.2 nonempty
    simp only [List.length_append] at *
    omega

theorem literal?_length {negative : Bool} {s rest : List Char} {l : Literal}
    (h : literal? negative s = some (l, rest)) : rest.length < s.length := by
  obtain ⟨⟨_, s₁⟩, h₁, h⟩ := Option.bind_eq_some_iff.1 h
  obtain ⟨⟨_, s₂⟩, h₂, h⟩ := Option.bind_eq_some_iff.1 h
  obtain ⟨⟨_, s₃⟩, h₃, h⟩ := Option.bind_eq_some_iff.1 h
  cases h
  exact Nat.lt_of_le_of_lt (exponent?_length h₃)
    (Nat.lt_of_le_of_lt (fraction?_length h₂) (whole?_length h₁))

theorem number?_length {negative : Bool} {s rest : List Char} {t : Token}
    (h : number? negative s = some (t, rest)) : rest.length < s.length := by
  obtain ⟨⟨l, r⟩, h, e⟩ := Option.map_eq_some_iff.1 h
  cases e
  exact literal?_length h

theorem next?_length {c : Char} {s rest : List Char} {t : Token}
    (h : next? c s = some (t, rest)) : rest.length ≤ s.length := by
  unfold next? at h
  split at h
  case h_7 =>
    obtain ⟨⟨ps, r⟩, h, e⟩ := Option.map_eq_some_iff.1 h
    cases e
    exact pieces?_length h
  case h_8 => exact Nat.le_of_lt (number?_length h)
  case h_12 => exact Nat.le_of_lt_succ (number?_length h)
  all_goals grind [List.length_cons]

/-- The tokens of a text; white space separates them. -/
def scan? : List Char → Option (List Token)
  | [] => some []
  | c :: s =>
    if isSpace c then scan? s
    else
      match _h : next? c s with
      | none => none
      | some (t, rest) => (scan? rest).map (t :: ·)
termination_by s => s.length
decreasing_by
  · simp
  · have := next?_length _h
    simp only [List.length_cons]
    omega

end Token

end ImageGraph
