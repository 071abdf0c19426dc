import ImageGraph.Rehearsal.Web.Host
import ImageGraph.Rehearsal.Web.Path

/-!
The authority of a URL: who asks, which host, and which port.
-/

namespace ImageGraph.Web

open Text

/-- How URLs of a scheme are read. -/
inductive SchemeKind where
  /-- They name a host that is looked up, and imply a port. -/
  | hosted (port : Nat)
  /-- They name a file, and possibly a host. -/
  | file
  | other
  deriving Repr, DecidableEq

/-- A user name and a password, escaped. One of them may be missing. -/
structure User where
  name : String
  password : Option String
  deriving Repr, DecidableEq

structure Authority where
  user : Option User
  host : Option Host
  /-- Given unless it is the one that the scheme implies. -/
  port : Option Nat
  deriving Repr, DecidableEq

def SchemeKind.ofName : String → SchemeKind
  | "http" | "ws" => hosted 80
  | "https" | "wss" => hosted 443
  | "ftp" => hosted 21
  | "file" => file
  | _ => other

namespace User

def special : List Char := Path.special ++ "/:;=@[\\]^|".toList

/-- Reads a name and, after a colon, a password. -/
def read? (text : List Char) : Option User :=
  let (name, password) := cut ':' text
  let written (part : List Char) : String := String.ofList (escape special part)
  let password := password.filter (· ≠ [])
  if name = [] ∧ password = none then none else some ⟨written name, password.map written⟩

/-- Holds if the name is text, and the name or else the password says something. -/
def isReadable (u : User) : Bool :=
  (unescaped? u.name.toList).isSome &&
    (u.name ≠ "" || (u.password.bind fun p => unescaped? p.toList).isSome)

def text (u : User) : String :=
  u.name ++ (u.password.elim "" (":" ++ ·)) ++ "@"

end User

namespace Authority

/-- The host and what follows the colon after it; a colon in brackets belongs to the host. -/
def splitPort : Bool → List Char → List Char × Option (List Char)
  | _, [] => ([], none)
  | inBrackets, c :: rest =>
    if c = ':' && !inBrackets then ([], some rest)
    else
      let inBrackets := c = '[' || inBrackets && c ≠ ']'
      let (host, port) := splitPort inBrackets rest
      (c :: host, port)

/-- A port in decimal; nothing, or the implied port, stands for none. -/
def port? (implied : Option Nat) (digits : List Char) : Option (Option Nat) :=
  if digits.all Char.isDigit ∧ Decimal.value digits < UInt16.size then
    some (if digits = [] || some (Decimal.value digits) = implied then none
      else some (Decimal.value digits))
  else none

/-- Reads an authority, and what follows a port from a backslash on. A host may be missing if it is
not looked up and if nothing else is given but an empty user. -/
def read? (kind : SchemeKind) (text : List Char) : Option (Authority × List Char) := do
  let (info, place) := cutLast '@' text
  let (host, port) := splitPort false place
  let user := info.bind User.read?
  let digits := (port.getD []).takeWhile (· ≠ '\\')
  let rest := (port.getD []).dropWhile (· ≠ '\\')
  match kind with
  | .hosted implied => pure (⟨user, ← Host.read? host, ← port? (some implied) digits⟩, rest)
  | _ =>
    if host ≠ [] then pure (⟨user, ← Host.verbatim? host, ← port? none digits⟩, rest)
    else if port.isNone && (info.isNone || info = some [':']) then pure (⟨none, none, none⟩, rest)
    else none

def text (a : Authority) : String :=
  (a.user.elim "" User.text) ++ (a.host.elim "" Host.text) ++
    (a.port.elim "" fun port => ":" ++ toString port)

end Authority

end ImageGraph.Web
