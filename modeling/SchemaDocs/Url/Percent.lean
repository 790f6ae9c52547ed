/-
Percent escapes.

A character that may not stand in a part of a URL is written as the bytes
of its UTF-8 form, each as a percent sign and two hexadecimal digits. The
percent sign itself always stands, so that text with escapes in it keeps
them.
-/
import SchemaDocs.Text.Escape

namespace SchemaDocs.Url

-- ============================================================ writing

/-- The escape of one byte. -/
def escapeByte (byte : UInt8) : List Char :=
  ['%', Text.hexUpper (byte.toNat / 16), Text.hexUpper (byte.toNat % 16)]

/-- The text with every character escaped that `stands` does not accept. -/
def escapeUnless (stands : Char → Bool) (cs : List Char) : List Char :=
  cs.flatMap fun c =>
    if stands c then [c] else (String.utf8EncodeChar c).flatMap escapeByte

/-- The characters that stand in a path: visible ASCII but for nine. -/
def standsInPath (c : Char) : Bool :=
  0x20 < c.toNat && c.toNat < 0x7F && !"\"#<>?^`\x7b\x7d".toList.contains c

/-- The characters that stand in a user name or a password. -/
def standsInUser (c : Char) : Bool :=
  standsInPath c && !"/:;=@[\\]|".toList.contains c

-- ============================================================ reading

/-- The bytes of a text, with its escapes resolved. A percent sign without
two digits after it stands for itself. -/
def unescapedBytes : List Char → List UInt8
  | '%' :: a :: b :: rest =>
      match Text.hexDigit? a, Text.hexDigit? b with
      | some high, some low =>
          UInt8.ofNat (high * 16 + low) :: unescapedBytes rest
      | _, _ => 0x25 :: unescapedBytes (a :: b :: rest)
  | c :: rest => String.utf8EncodeChar c ++ unescapedBytes rest
  | [] => []

/-- The text with its escapes resolved, unless that is not UTF-8. -/
def unescape (cs : List Char) : Option (List Char) :=
  if cs.contains '%' then
    (String.fromUTF8? ⟨(unescapedBytes cs).toArray⟩).map String.toList
  else some cs

end SchemaDocs.Url
