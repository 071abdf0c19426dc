import ImageGraph.Json.Document

/-!
Records and named choices in JSON. A record is an object with its fields under their names, or an
array with its fields in order; a choice is its name, or an object with the name as its one key.
-/

namespace ImageGraph.Json

/-- What a value holds for one field of a record. -/
inductive Field where
  | given (value : Json)
  | unnamed
  | beyondEnd

namespace Field

/-- A field that has to be there. -/
def required (read : Json → Option α) : Field → Option α
  | given value => read value
  | _ => none

/-- A field that may be null, or have no name in an object. An array has to give it a place. -/
def optional (read : Json → Option α) : Field → Option (Option α)
  | given .null => some none
  | given value => (read value).map some
  | unnamed => some none
  | beyondEnd => none

/-- A field that may be left out. -/
def withDefault (default : α) (read : Json → Option α) : Field → Option α
  | given value => read value
  | _ => some default

end Field

/-- The fields of a record with the given field names. Other keys of an object are passed over;
an array may not be longer than the record. -/
def record? (names : List String) : Json → Option (String → Field)
  | obj entries => some fun name => ((entries.lookup name).map .given).getD .unnamed
  | arr items =>
    if items.length ≤ names.length then
      some fun name => ((items[names.idxOf name]?).map .given).getD .beyondEnd
    else none
  | _ => none

/-- Reads every item of an array. -/
def listOf? (read : Json → Option α) (j : Json) : Option (List α) :=
  j.array?.bind fun items => items.mapM read

/-- The choice with the given name. -/
def chosen? (choices : List α) (name : α → String) (s : String) : Option α :=
  choices.find? fun a => name a == s

/-- A choice without content. -/
def choice? (choices : List α) (name : α → String) : Json → Option α
  | str s => chosen? choices name s
  | obj [(s, null)] => chosen? choices name s
  | _ => none

def uint64? (j : Json) : Option UInt64 :=
  j.int?.bind fun n => if 0 ≤ n ∧ n < UInt64.size then some (.ofNat n.toNat) else none

def int64? (j : Json) : Option Int64 :=
  j.int?.bind fun n =>
    if Int64.minValue.toInt ≤ n ∧ n ≤ Int64.maxValue.toInt then some (.ofInt n) else none

def ofUInt64 (n : UInt64) : Json :=
  ofNat n.toNat

def ofInt64 (n : Int64) : Json :=
  num (.int n.toInt)

end ImageGraph.Json

namespace ImageGraph.Document

/-- The fields of a record whose fields may all be left out. A name of the record may occur only
once; what stands under other names is not looked at. -/
def record? (names : List String) : Document → Option (String → Option Document)
  | object members => do
    let keys ← members.mapM Prod.fst
    if names.any fun name => 1 < keys.count name then none
    else some fun name => members.lookup (some name)
  | array items =>
    if items.length ≤ names.length then some fun name => items[names.idxOf name]? else none
  | _ => none

/-- Reads a field that may be left out. -/
def fieldOr (default : α) (read : Document → Option α) : Option Document → Option α
  | none => some default
  | some d => read d

def string? : Document → Option String
  | string s => s
  | _ => none

def float? : Document → Option Float
  | number n => n.map Number.toFloat
  | _ => none

def uint64? : Document → Option UInt64
  | number n => n.bind fun n => (Json.num n).uint64?
  | _ => none

/-- A value that may be null. -/
def orNull? (read : Document → Option α) : Document → Option (Option α)
  | null => some none
  | d => (read d).map some

/-- A choice without content. -/
def choice? (choices : List α) (name : α → String) : Document → Option α
  | string s => s.bind (Json.chosen? choices name)
  | object [(s, null)] => s.bind (Json.chosen? choices name)
  | _ => none

end ImageGraph.Document
