import ImageGraph.Text.Hexadecimal

/-!
Bytes in URLs, each written as a percent sign and two hexadecimal digits.
-/

namespace ImageGraph.Web

/-- The bytes of a character, each after a percent sign, in capital letters. -/
def escapeChar (c : Char) : List Char :=
  c.toString.toUTF8.toList.flatMap fun b =>
    ['%', (Text.Hex.digit (b.toNat / 16)).toUpper, (Text.Hex.digit (b.toNat % 16)).toUpper]

/-- Escapes the characters of a class, and all that are not printable ASCII. -/
def escape (special : List Char) (text : List Char) : List Char :=
  text.flatMap fun c =>
    if c.toNat < 32 || 126 < c.toNat || special.contains c then escapeChar c else [c]

/-- The bytes of a text, with escapes replaced by what they stand for. -/
def unescape : List Char → List UInt8
  | [] => []
  | '%' :: a :: b :: rest =>
    match Text.Hex.number? 16 [a, b] with
    | some n => .ofNat n :: unescape rest
    | none => '%'.toString.toUTF8.toList ++ unescape (a :: b :: rest)
  | c :: rest => c.toString.toUTF8.toList ++ unescape rest

/-- The text without escapes, if its bytes are UTF-8. -/
def unescaped? (text : List Char) : Option String :=
  String.fromUTF8? ⟨(unescape text).toArray⟩

end ImageGraph.Web
