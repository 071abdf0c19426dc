import ImageGraph.Rehearsal.Web.Authority

/-!
Absolute URLs in the one spelling that is sent and reported.
-/

namespace ImageGraph.Web

open Text

structure Url where
  scheme : String
  authority : Option Authority
  /-- Begins with a slash if there is an authority that is followed by something. -/
  path : String
  query : Option String
  fragment : Option String
  deriving Repr, DecidableEq

namespace Url

def querySpecial : SchemeKind → List Char
  | .other => " \"<>#".toList
  | _ => " \"<>#'".toList

def fragmentSpecial : List Char := " \"<>\x60".toList

/-- Without control characters and spaces at the ends. -/
def trim (text : List Char) : List Char :=
  let blank (c : Char) : Bool := c.toNat ≤ 32
  ((text.dropWhile blank).reverse.dropWhile blank).reverse

/-- The scheme in small letters, and what follows its colon. -/
def scheme? (text : List Char) : Option (String × List Char) :=
  let (name, after) := cut ':' text
  match Path.withoutBreaks name, after with
  | c :: rest, some after =>
    if c.isAlpha && rest.all fun c => c.isAlphanum || c = '+' || c = '-' || c = '.' then
      some (lower (String.ofList (c :: rest)), after)
    else none
  | _, _ => none

/-- The parts before and from the first slash on. -/
def atSlash (text : List Char) : List Char × List Char :=
  (text.takeWhile (· ≠ '/'), text.dropWhile (· ≠ '/'))

/-- A backslash counts as a slash. -/
def withSlashes (text : List Char) : List Char :=
  text.map fun c => if c = '\\' then '/' else c

/-- The host and the path of a file. A path that begins with a drive is on this computer, and
slashes that a path begins with count as one. -/
def onHost (host : Option Host) (path : List (List Char)) : Option Host × String :=
  let segments := Path.resolve true [] path
  match segments with
  | .drive _ :: _ => (none, Path.text segments)
  | _ => (host, Path.text (segments.dropWhile (·.text = [])))

/-- Reads the host and the path of a file from its parts between slashes. Files without a host are
on this computer, like those of `localhost`. -/
def file? : List (List Char) → Option (Option Host × String)
  | [] => some (onHost none [])
  | first :: rest =>
    if Path.withoutBreaks first ≠ [] || rest.isEmpty then some (onHost none (first :: rest))
    else
      match rest with
      | second :: place :: path =>
        let host := Path.withoutBreaks place
        if Path.withoutBreaks second ≠ [] then some (onHost none rest)
        else if (Path.drive? host).isSome then some (onHost none (place :: path))
        else if host = [] then some (onHost none ([] :: path))
        else do
          let host ← Host.read? host
          if host = .name "localhost" then pure (onHost none ([] :: path))
          else pure (onHost (some host) path)
      | rest => some (onHost none rest)

/-- A path after an authority; it begins with a slash, given or not, unless there is none. -/
def after : List Char → String
  | [] => ""
  | '/' :: path | path => Path.below path

/-- Reads what stands between the scheme and the query. -/
def hierarchy? (kind : SchemeKind) (raw : List Char) : Option (Option Authority × String) :=
  match kind, Path.withoutBreaks raw with
  | .hosted _, text => do
    let (place, path) := atSlash ((withSlashes text).dropWhile (· = '/'))
    let (authority, _) ← Authority.read? kind place
    pure (some authority, Path.below (path.drop 1))
  | .file, _ => do
    let (host, path) ← file? (parts '/' (withSlashes raw))
    pure (some ⟨none, host, none⟩, path)
  | .other, '/' :: '/' :: rest => do
    let (place, path) := atSlash rest
    let (authority, backslash) ← Authority.read? kind place
    pure (some authority, after (backslash ++ path))
  | .other, '/' :: rest => some (none, Path.below rest)
  | .other, text => some (none, String.ofList (escape [] text))

/-- The URL that a text denotes, if it denotes one without reference to another. -/
def read? (text : String) : Option Url := do
  let (text, fragment) := cut '#' (trim text.toList)
  let (text, query) := cut '?' text
  let (scheme, rest) ← scheme? text
  let kind := SchemeKind.ofName scheme
  let (authority, path) ← hierarchy? kind rest
  let written (special part : List Char) : String :=
    String.ofList (escape special (Path.withoutBreaks part))
  pure {
    scheme, authority, path
    query := query.map (written (querySpecial kind))
    fragment := fragment.map (written fragmentSpecial) }

/-- A path without an authority must not look like one, so a dot is put in front of two slashes. -/
def text (u : Url) : String :=
  let hierarchy := match u.authority with
    | some a => "//" ++ Authority.text a ++ u.path
    | none => if startsWith "//" u.path then "/." ++ u.path else u.path
  u.scheme ++ ":" ++ hierarchy ++ (u.query.elim "" ("?" ++ ·)) ++ (u.fragment.elim "" ("#" ++ ·))

def host? (u : Url) : Option Host := u.authority.bind Authority.host

/-- Leaves out a user who is readable, since a request names such a user elsewhere. -/
def withoutUser (u : Url) : Url :=
  { u with authority := u.authority.map fun a =>
      { a with user := a.user.filter fun user => !user.isReadable } }

/-- Holds for the schemes that requests can be sent by. -/
def isWeb (u : Url) : Bool :=
  u.scheme = "http" || u.scheme = "https"

/-- Longer addresses are not sent. -/
def longest : Nat := 65534

/-- Holds if a request can be sent to the URL. Some characters that a host name may hold are not
sent. -/
def isSendable (u : Url) : Bool :=
  u.isWeb && (u.host?.all fun host => host.text.toList.all fun c => !Path.special.contains c) &&
    u.text.utf8ByteSize ≤ longest

end Url

end ImageGraph.Web
