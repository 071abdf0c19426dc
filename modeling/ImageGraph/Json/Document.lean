import ImageGraph.Json.Object
import ImageGraph.Json.Token

/-!
The tree of a JSON text. A leaf that has a correct form but no value stays in the tree, so that
whoever reads the tree may pass over it; reading the whole tree as a value does not.
-/

namespace ImageGraph

inductive Document where
  | null
  | bool (b : Bool)
  | number (n : Option Number)
  | string (s : Option String)
  | array (items : List Document)
  | object (members : List (Option String × Document))
  deriving Inhabited

namespace Document

/-- What remains after at least one token of `ts`. -/
abbrev Rest (ts : List Token) := { rest : List Token // rest.length < ts.length }

mutual

/-- The value that the tokens begin with. -/
def value? : (ts : List Token) → Option (Document × Rest ts)
  | .null :: ts => some (null, ⟨ts, Nat.lt_succ_self _⟩)
  | .bool b :: ts => some (bool b, ⟨ts, Nat.lt_succ_self _⟩)
  | .number n :: ts => some (number n, ⟨ts, Nat.lt_succ_self _⟩)
  | .string s :: ts => some (string s, ⟨ts, Nat.lt_succ_self _⟩)
  | .openArray :: .closeArray :: ts =>
    some (array [], ⟨ts, Nat.lt_succ_of_lt (Nat.lt_succ_self _)⟩)
  | .openArray :: ts =>
    (items? ts).map fun (items, rest) => (array items, ⟨rest.1, Nat.lt_succ_of_lt rest.2⟩)
  | .openObject :: .closeObject :: ts =>
    some (object [], ⟨ts, Nat.lt_succ_of_lt (Nat.lt_succ_self _)⟩)
  | .openObject :: ts =>
    (members? ts).map fun (members, rest) =>
      (object members, ⟨rest.1, Nat.lt_succ_of_lt rest.2⟩)
  | _ => none
termination_by ts => 2 * ts.length

/-- The items up to the end of an array, one at least. -/
def items? (ts : List Token) : Option (List Document × Rest ts) :=
  match value? ts with
  | some (item, ⟨.closeArray :: rest, h⟩) => some ([item], ⟨rest, Nat.lt_of_succ_lt h⟩)
  | some (item, ⟨.comma :: rest, h⟩) =>
    (items? rest).map fun (items, last) =>
      (item :: items, ⟨last.1, Nat.lt_trans last.2 (Nat.lt_of_succ_lt h)⟩)
  | _ => none
termination_by 2 * ts.length + 1
decreasing_by
  · omega
  · simp only [List.length_cons] at h; omega

/-- The members up to the end of an object, one at least. -/
def members? : (ts : List Token) → Option (List (Option String × Document) × Rest ts)
  | .string key :: .colon :: ts =>
    match value? ts with
    | some (value, ⟨.closeObject :: rest, h⟩) =>
      some ([(key, value)], ⟨rest, Nat.lt_add_right 2 (Nat.lt_of_succ_lt h)⟩)
    | some (value, ⟨.comma :: rest, h⟩) =>
      (members? rest).map fun (members, last) =>
        ((key, value) :: members,
          ⟨last.1, Nat.lt_add_right 2 (Nat.lt_trans last.2 (Nat.lt_of_succ_lt h))⟩)
    | _ => none
  | _ => none
termination_by ts => 2 * ts.length
decreasing_by
  · simp only [List.length_cons]; omega
  · simp only [List.length_cons] at *; omega

end

/-- The tree of a text that holds one value and nothing else. -/
def parse? (text : String) : Option Document := do
  match ← value? (← Token.scan? text.toList) with
  | (d, ⟨[], _⟩) => some d
  | _ => none

mutual

/-- The value of a tree without empty leaves that nests arrays and objects at most `depth` deep.
Of several members with one key the last counts. -/
def read? : Nat → Document → Option Json
  | _, null => some .null
  | _, bool b => some (.bool b)
  | _, number n => n.map .num
  | _, string s => s.map .str
  | 0, array _ => none
  | depth + 1, array items => (readItems? depth items).map .arr
  | 0, object _ => none
  | depth + 1, object members =>
    (readMembers? depth members).map fun entries => (Json.Object.ofList entries.reverse).toJson

def readItems? : Nat → List Document → Option (List Json)
  | _, [] => some []
  | depth, item :: items => do
    pure ((← read? depth item) :: (← readItems? depth items))

def readMembers? : Nat → List (Option String × Document) → Option (List (String × Json))
  | _, [] => some []
  | depth, (key, value) :: members => do
    pure ((← key, ← read? depth value) :: (← readMembers? depth members))

end

/-- How deep arrays and objects may nest in a text that is read as a value. -/
def depthLimit : Nat := 127

end Document

namespace Json

/-- The value that a text denotes, if it denotes one. -/
def parse? (text : String) : Option Json :=
  (Document.parse? text).bind (Document.read? Document.depthLimit)

mutual

/-- A value as a tree in which every leaf has its value. -/
def toDocument : Json → Document
  | null => .null
  | bool b => .bool b
  | num n => .number (some n)
  | str s => .string (some s)
  | arr items => .array (itemsToDocuments items)
  | obj entries => .object (entriesToMembers entries)

def itemsToDocuments : List Json → List Document
  | [] => []
  | item :: items => item.toDocument :: itemsToDocuments items

def entriesToMembers : List (String × Json) → List (Option String × Document)
  | [] => []
  | (key, value) :: entries => (some key, value.toDocument) :: entriesToMembers entries

end

end Json

end ImageGraph
