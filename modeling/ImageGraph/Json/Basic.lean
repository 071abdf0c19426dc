/-!
JSON values. A number keeps its kind: a whole number between `-2 ^ 63` and `2 ^ 64 - 1`, or a
64-bit float. The entries of an object are kept in the order of their keys.
-/

namespace ImageGraph

inductive Number where
  | int (n : Int)
  | float (x : Float)
  deriving Repr, DecidableEq

inductive Json where
  | null
  | bool (b : Bool)
  | num (n : Number)
  | str (s : String)
  | arr (items : List Json)
  | obj (entries : List (String × Json))
  deriving Inhabited

namespace Number

/-- The nearest float. -/
def toFloat : Number → Float
  | int n => Float.ofInt n
  | float x => x

def toInt? : Number → Option Int
  | int n => some n
  | float _ => none

/-- Numbers of different kinds differ; floats are compared by value, so both zeros agree. -/
def same : Number → Number → Bool
  | int m, int n => m == n
  | float x, float y => x == y
  | _, _ => false

end Number

namespace Json

/-- A float as a JSON value; there is no number for what is not finite. -/
def ofFloat (x : Float) : Json :=
  if x.isFinite then num (.float x) else null

def ofNat (n : Nat) : Json :=
  num (.int n)

def ofOption (f : α → Json) : Option α → Json
  | none => null
  | some a => f a

/-- A list as an array, unless it is empty. -/
def nonempty? : List Json → Option Json
  | [] => none
  | items => some (arr items)

def isNull : Json → Bool
  | null => true
  | _ => false

def isObject : Json → Bool
  | obj _ => true
  | _ => false

def string? : Json → Option String
  | str s => some s
  | _ => none

def bool? : Json → Option Bool
  | bool b => some b
  | _ => none

def array? : Json → Option (List Json)
  | arr items => some items
  | _ => none

def float? : Json → Option Float
  | num n => some n.toFloat
  | _ => none

def int? : Json → Option Int
  | num n => n.toInt?
  | _ => none

/-- The value under a key, if this is an object that has it. -/
def field? (key : String) : Json → Option Json
  | obj entries => entries.lookup key
  | _ => none

/-- The first value of the kind that `read` accepts among the given keys. -/
def firstOf? (read : Json → Option α) (keys : List String) (j : Json) : Option α :=
  keys.findSome? fun key => (j.field? key).bind read

/-- The first text among the given keys, unless it is empty. -/
def textAt? (keys : List String) (j : Json) : Option String :=
  (j.firstOf? string? keys).filter fun s => s ≠ ""

mutual

/-- Agreement of two values; floats are compared by value. -/
def same : Json → Json → Bool
  | null, null => true
  | bool a, bool b => a == b
  | num m, num n => m.same n
  | str s, str t => s == t
  | arr xs, arr ys => sameItems xs ys
  | obj xs, obj ys => sameEntries xs ys
  | _, _ => false

def sameItems : List Json → List Json → Bool
  | [], [] => true
  | x :: xs, y :: ys => same x y && sameItems xs ys
  | _, _ => false

def sameEntries : List (String × Json) → List (String × Json) → Bool
  | [], [] => true
  | (k, x) :: xs, (l, y) :: ys => k == l && same x y && sameEntries xs ys
  | _, _ => false

end

end Json

end ImageGraph
