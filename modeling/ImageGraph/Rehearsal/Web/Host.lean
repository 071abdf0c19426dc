import ImageGraph.Rehearsal.Web.Escape
import ImageGraph.Decimal.Reading
import ImageGraph.Rehearsal.Web.Domain.Ascii

/-!
Hosts as they stand in a URL: a name, an IPv4 address or an IPv6 address, each in one spelling.
-/

namespace ImageGraph.Web

inductive Host where
  | name (text : String)
  | ipv4 (address : Nat)
  /-- The eight groups of 16 bits. -/
  | ipv6 (groups : List Nat)
  deriving Repr, DecidableEq

open Text

namespace Host

/-- A part of an IPv4 address, hexadecimal after `0x`, octal after `0`, else decimal. -/
def addressPart? : List Char → Option Nat
  | [] => none
  | '0' :: 'x' :: digits | '0' :: 'X' :: digits => Hex.number? 16 digits
  | '0' :: digits => Hex.number? 8 digits
  | digits => Hex.number? 10 digits

/-- The labels of a name; a dot at the end adds none. -/
def labels (host : List Char) : List (List Char) :=
  match (parts '.' host).reverse with
  | [] :: last :: before => (last :: before).reverse
  | reversed => reversed.reverse

/-- A host whose last label is a number has to be an IPv4 address. -/
def endsInNumber (host : List Char) : Bool :=
  match (labels host).getLast? with
  | some label => label ≠ [] && (label.all Char.isDigit || (addressPart? label).isSome)
  | none => false

/-- Every part but the last is a byte; the last takes the bytes that remain, one at least. -/
def address? : Nat → List Nat → Option Nat
  | 0, _ | _, [] => none
  | bytes, [last] => if last < 1 <<< (8 * bytes) then some last else none
  | bytes + 1, part :: rest =>
    if part < 256 then (address? bytes rest).map (part <<< (8 * bytes) + ·) else none

def ipv4? (host : List Char) : Option Host := do
  pure (ipv4 (← address? 4 (← (labels host).mapM addressPart?)))

/-- A group of an IPv6 address: one to four hexadecimal digits. -/
def group? (digits : List Char) : Option Nat :=
  if digits ≠ [] ∧ digits.length ≤ 4 then Hex.number? 16 digits else none

/-- A byte in decimal without needless zeros. -/
def byte? (digits : List Char) : Option Nat :=
  if digits ≠ [] ∧ digits.all Char.isDigit ∧ (digits.head? = some '0' → digits.length = 1) ∧
      Decimal.value digits < 256 then
    some (Decimal.value digits)
  else none

/-- The groups of one side of an IPv6 address; the last two may be four bytes in decimal. -/
def groups? (mayEndInBytes : Bool) (side : List Char) : Option (List Nat) :=
  if side = [] then some []
  else
    match (parts ':' side).reverse with
    | last :: before => do
      let before ← before.reverse.mapM group?
      match mayEndInBytes, parts '.' last with
      | true, [a, b, c, d] =>
        pure (before ++ [(← byte? a) * 256 + (← byte? b), (← byte? c) * 256 + (← byte? d)])
      | _, _ => pure (before ++ [← group? last])
    | [] => none

/-- The parts before and after the first two colons that follow each other. -/
def cutColons? : List Char → Option (List Char × List Char)
  | ':' :: ':' :: rest => some ([], rest)
  | c :: rest => (cutColons? rest).map fun (before, after) => (c :: before, after)
  | [] => none

/-- Two colons stand for one zero group or more. -/
def ipv6? (text : List Char) : Option Host :=
  match cutColons? text with
  | some (before, after) => do
    let before ← groups? false before
    let after ← groups? true after
    let given := before.length + after.length
    if given < 8 then pure (ipv6 (before ++ List.replicate (8 - given) 0 ++ after)) else none
  | none => do
    let groups ← groups? true text
    if groups.length = 8 then pure (ipv6 groups) else none

/-- The characters that end a host or are kept for another use. -/
def reserved : List Char := "#/:<>?@[\\]^|".toList

/-- A character that no host name may hold. -/
def forbidden (c : Char) : Bool :=
  c.toNat ≤ 32 || c.toNat = 127 || c = '%' || reserved.contains c

/-- Reads what stands between brackets. -/
def bracketed? (text : List Char) : Option Host :=
  if text.getLast? = some ']' then ipv6? text.dropLast else none

/-- Reads the host of a scheme whose hosts are looked up. -/
def read? : List Char → Option Host
  | '[' :: text => bracketed? text
  | text => do
    let host ← Domain.ascii? (← unescaped? text).toList
    if host.isEmpty || host.any forbidden then none
    else if endsInNumber host then ipv4? host
    else pure (name (String.ofList host))

/-- Reads the host of any other scheme, which is not looked into. -/
def verbatim? : List Char → Option Host
  | '[' :: text => bracketed? text
  | text =>
    if text.any fun c => c = '\x00' || c = ' ' || reserved.contains c then none
    else some (name (String.ofList (escape [] text)))

/-- How many zeros a list begins with. -/
def zeros (groups : List Nat) : Nat :=
  (groups.takeWhile (· = 0)).length

/-- The first of the longest runs of zeros: its place and its length. -/
def longestZeros (groups : List Nat) : Nat × Nat :=
  (List.range groups.length).foldl (fun best i =>
    if best.2 < zeros (groups.drop i) then (i, zeros (groups.drop i)) else best) (0, 0)

def groupsText (groups : List Nat) : String :=
  ":".intercalate (groups.map fun g => String.ofList (Nat.toDigits 16 g))

def text : Host → String
  | name text => text
  | ipv4 address =>
    ".".intercalate ([24, 16, 8, 0].map fun i => toString (address >>> i % 256))
  | ipv6 groups =>
    let (place, length) := longestZeros groups
    if length < 2 then "[" ++ groupsText groups ++ "]"
    else
      "[" ++ groupsText (groups.take place) ++ "::" ++ groupsText (groups.drop (place + length)) ++
        "]"

end Host

end ImageGraph.Web
