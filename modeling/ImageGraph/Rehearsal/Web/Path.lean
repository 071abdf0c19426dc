import ImageGraph.Rehearsal.Web.Escape
import ImageGraph.Text.Blank
import ImageGraph.Rehearsal.Web.Parts

/-!
Paths of URLs: segments with slashes between them. The segments `.` and `..` are resolved while a
path is read, but nothing leads out of a segment that names a drive, such as `C:` or `C|`. Tabs and
line ends do not count, except behind the drive that a path of files begins with.
-/

namespace ImageGraph.Web

open Text

namespace Path

inductive Segment where
  /-- The drive that a path of files begins with. -/
  | drive (letter : Char)
  | plain (text : List Char)
  deriving Repr, DecidableEq

def special : List Char := " \"<>\x60#?\x7b\x7d".toList

/-- The segment `.`, also with its dot escaped. -/
def isDot (segment : List Char) : Bool :=
  ["." , "%2e"].contains (lower (String.ofList segment))

/-- The segment `..`, also with dots escaped. -/
def isDoubleDot (segment : List Char) : Bool :=
  ["..", ".%2e", "%2e.", "%2e%2e"].contains (lower (String.ofList segment))

def isBreak (c : Char) : Bool :=
  c = '\t' || c = '\n' || c = '\r'

def withoutBreaks (text : List Char) : List Char :=
  text.filter fun c => !isBreak c

/-- The letter of a drive. -/
def drive? : List Char → Option Char
  | [letter, mark] => if letter.isAlpha && (mark = ':' || mark = '|') then some letter else none
  | _ => none

namespace Segment

def text : Segment → List Char
  | drive letter => [letter, ':']
  | plain text => text

end Segment

/-- The segments of the directory above, in reverse. -/
def above : List Segment → List Segment
  | [] => []
  | last :: before => if (drive? last.text).isSome then last :: before else before

/-- A segment as it is written in a path. -/
def written (raw : List Char) : List Char :=
  escape special (withoutBreaks raw)

/-- A drive with a colon and what a break separates from it. -/
def cutDrive? (raw : List Char) : Option (List Char × List Char) :=
  match cut ':' raw with
  | (letter, some (b :: rest)) =>
    let drive := withoutBreaks letter ++ [':']
    if (drive? drive).isSome && isBreak b && withoutBreaks rest ≠ [] then
      some (drive, written rest)
    else none
  | _ => none

/-- The segments that stand for one at the root of a path of files, in reverse. What a break
separates from a drive is a segment of its own and taken as it is. -/
def atRoot (raw : List Char) : List Segment :=
  match cutDrive? raw, drive? (withoutBreaks raw) with
  | some (drive, rest), _ => [.plain rest, .plain drive]
  | none, some letter => [.drive letter]
  | none, none => [.plain (written raw)]

/-- Resolves the dots among segments, with the segments so far in reverse. A dot segment at the end
leaves an empty one. -/
def resolve (files : Bool) (reversed : List Segment) : List (List Char) → List Segment
  | [] => reversed.reverse
  | raw :: rest =>
    let segment := withoutBreaks raw
    let atEnd := if rest.isEmpty then [.plain []] else []
    if isDoubleDot segment then resolve files (atEnd ++ above reversed) rest
    else if isDot segment then resolve files (atEnd ++ reversed) rest
    else if files && reversed.isEmpty then resolve files (atRoot raw) rest
    else resolve files (.plain (written raw) :: reversed) rest

/-- The path of segments below the root. -/
def text (segments : List Segment) : String :=
  String.ofList ('/' :: ['/'].intercalate (segments.map Segment.text))

/-- The path below the root that a text names. -/
def below (path : List Char) : String :=
  text (resolve false [] (parts '/' path))

end Path

end ImageGraph.Web
