/-
Labels of domain names.

A label is read from its text, which may be Punycode behind `xn--`, and
written back to ASCII. A label in characters beyond ASCII has to be in
composed form, may not start with a mark, and may hold the two joining
characters only where they shape the letters around them.
-/
import SchemaDocs.Url.Domain.Mapping
import SchemaDocs.Url.Domain.Punycode

namespace SchemaDocs.Url.Domain

open Unicode (Ranges Classes)

-- ============================================================ tables

/-- The combining marks. -/
def marks : Ranges := .ofLines [
  "lc 33 7n 6 7b 18 1 0 1 1 1 1 1 0 20 a 1c k g 0 2t 6 2 5 2 1 1 3 z 0 u q 2j",
  "a 1m 8 9 0 o 3 1 8 1 2 1 4 17 2 1n 8 16 n 1 w 1i 2 1 h 1 6 a 1 t 2 1k 0 1",
  "6 2 1 2 2 9 0 a 1 q 0 2 2 1k 0 1 4 4 1 2 2 3 0 u 1 3 0 b 2 1k 0 1 7 1 2 1",
  "2 k 1 m 5 1 2 1k 0 1 6 2 1 2 2 7 2 a 1 u 0 1n 4 3 2 1 3 9 0 14 4 1j 0 1 6",
  "1 2 1 3 7 1 b 1 t 2 1k 0 1 6 1 2 1 3 7 1 b 1 f 0 c 3 1j 1 1 6 1 2 1 3 9 0",
  "a 1 t 2 1y 0 4 5 1 0 1 7 i 1 1p 0 2 6 c 7 2q 0 2 8 b 6 21 1 r 0 1 0 1 0 4",
  "1 1d j 1 1 5 a 1 z 9 0 2s j n 3 4 2 1 2 2 6 3 3 d b 1 0 a 3 jj 2 qa 3 s 2",
  "t 1 u 1 1s v 9 0 19 2 1 0 39 1 y 0 3a b 4 b 63 4 1l 9 1 s 2 0 1c 19 2 b k",
  "4 1b g 12 8 c 2 u c 1k d 1c j 48 2 1 k 4 0 6 0 2 2 5i 1r k0 w 2da 2 3x 0",
  "2o v fe 5 2x 1 n9w 3 1 9 w 1 28 1 7k 0 3 0 4 0 n 4 4 0 2b 1 1e h q h d 0",
  "12 7 p c 18 3 1b d 10 0 1v d c 0 8 1 19 2 1e 0 1 2 2 1 5 1 1 0 15 4 5 1 6k",
  "7 1 1 fn4 0 kh f g f r1 0 6a 0 45 4 1ae 2 1 1 5 3 14 2 4 0 4l 1 fx 3 1t 4",
  "8t 1 25 5 1y a 1d 3 3e 2 1h e 15 0 2 1 a 3 19 a 7 0 1p 2 10 d g 1 18 0 c 2",
  "1c d 8 3 1 1 2k b 6 0 2 0 4d b l 3 1j 1 1 6 2 1 2 2 9 0 a 1 2 6 3 4 1v 8 1",
  "0 2 0 1 3 1 4 1 0 e 1 2a h n 0 29 j 6j 6 2 8 r 1 2a g 2y c 2t e 74 e 6t 5",
  "1 1 2 3 1 0 1 1 3x 6 2 6 3 0 s 9 14 6 1 3 8 0 9 a 1a f 5i 7 5j 7 1 7 2a l",
  "1 d 3e 5 3 0 1 1 1 6 1 0 1u 4 1 1 1 4 9n 3 9 1 1 0 1c 6 3 4 n 0 44l 0 6 e",
  "8ug h 1xc 4 1n 6 t4 0 1 1i 7 3 29 0 b 1 f57 1 3mp 19 2 m f2 4 3 5 8 7 2 6",
  "u 3 44 2 1iz 1i 4 1d 8 0 e 0 m 4 1 e 11s 6 1 g 2 6 1 1 1 4 2s 0 4g 6 af 0",
  "1p 3 e4 3 72 1 6r 0 2 0 7 1 5 0 d6 6 31 6 gzhx 6n"]

/-- How letters join: 1 to the left, 2 to the right, 3 on both sides; 4
is passed over. -/
def joiningType : Classes := .ofLines [
  "4t 0 4 gi 33 4 7n 6 4 7b 18 4 1 0 4 1 1 4 1 1 4 1 0 4 20 a 4 1 0 4 3 0 3 1",
  "3 2 0 0 3 0 0 2 0 0 3 0 0 2 0 4 3 0 3 2 0 c 3 1 6 3 0 0 2 0 1 3 0 k 4 e 1",
  "3 0 0 4 0 2 2 1 2 2 0 f 3 0 h 2 0 11 3 0 0 2 0 1 3 0 8 2 0 0 3 0 0 2 0 0 3",
  "0 0 2 0 1 3 0 1 2 1 0 2 0 6 4 2 5 4 2 1 4 1 3 4 0 1 2 a 2 3 2 0 3 f 0 4 0",
  "0 2 0 0 4 0 2 3 0 4 2 0 3 3 0 0 2 0 8 3 0 0 2 0 0 3 0 0 2 0 0 3 0 0 2 0 1",
  "3 0 0 2 0 q 4 2 0 2 0 a 3 0 2 2 0 e 3 0 1 2 0 3 3 0 0 2 0 0 3 0 1 2 0 2 3",
  "0 1 2 0 5 3 12 a 4 p w 3 0 8 4 9 0 4 o 3 4 1 8 4 1 2 4 1 4 4 i 0 2 0 4 3 0",
  "1 2 0 0 3 0 0 2 0 9 3 0 0 2 0 0 3 0 2 2 0 2 4 4 0 3 1 3 3 1 0 2 0 0 3 0 1",
  "2 5 i 2 3 0 3 2 4 3 0 0 2 0 0 3 7 8 4 0 9 3 0 2 2 1 0 2 0 1 3 0 1 2 0 5 3",
  "0 0 2 0 e 3 1 n 4 1 v 4 1j 0 4 1 0 4 4 7 4 4 0 4 3 6 4 a 1 4 t 0 4 1m 0 4",
  "4 3 4 8 0 4 k 1 4 q 0 4 2 1 4 1l 0 4 4 1 4 4 1 4 2 2 4 3 0 4 u 1 4 3 0 4 b",
  "1 4 1l 0 4 4 4 4 1 1 4 4 0 4 k 1 4 m 5 4 1 0 4 1m 0 4 2 0 4 1 3 4 8 0 4 7",
  "1 4 b 1 4 u 0 4 1p 0 4 c 0 4 1e 0 4 3 0 4 1j 0 4 1 2 4 5 2 4 1 3 4 7 1 4 b",
  "1 4 t 0 4 1m 0 4 2 0 4 6 0 4 5 1 4 k 1 4 s 1 4 1l 1 4 4 3 4 8 0 4 k 1 4 t",
  "0 4 20 0 4 7 2 4 1 0 4 2i 0 4 2 6 4 c 7 4 2q 0 4 2 8 4 b 6 4 21 1 4 r 0 4",
  "1 0 4 1 0 4 1j d 4 1 4 4 1 1 4 5 a 4 1 z 4 9 0 4 2u 3 4 1 5 4 1 1 4 2 1 4",
  "p 1 4 4 2 4 g 3 4 d 0 4 2 1 4 6 0 4 f 0 4 jj 2 4 qa 2 4 t 1 4 u 1 4 u 1 4",
  "1s 1 4 1 6 4 8 0 4 2 a 4 9 0 4 15 0 3 3 2 4 1 0 4 g 2g 3 c 1 4 0 x 3 0 0 4",
  "0 0 3 39 2 4 4 1 4 9 0 4 6 2 4 63 1 4 2 0 4 1m 0 4 1 6 4 1 0 4 1 0 4 2 7 4",
  "6 9 4 2 0 4 1c 19 4 2 b 4 k 3 4 1c 0 4 1 4 4 1 0 4 5 0 4 14 8 4 c 1 4 w 3",
  "4 2 1 4 1 2 4 1k 0 4 1 1 4 3 0 4 1 2 4 1m 7 4 2 1 4 48 2 4 1 c 4 1 6 4 4 0",
  "4 6 0 4 3 1 4 5i 1r 4 ej 0 4 2 1 4 q 4 4 1d 4 4 5 5 4 2o w 4 2da 2 4 3x 0",
  "4 2o v 4 fe 3 4 2z 1 4 n9w 3 4 1 9 4 w 1 4 28 1 4 7k 0 4 3 0 4 4 0 4 p 1 4",
  "5 0 4 j 1d 3 0 0 1 29 1 4 q h 4 d 0 4 12 7 4 p a 4 1a 2 4 1c 0 4 2 3 4 2 1",
  "4 13 0 4 1v 5 4 2 1 4 2 1 4 c 0 4 8 0 4 1b 0 4 1f 0 4 1 2 4 2 1 4 5 1 4 1",
  "0 4 16 1 4 8 0 4 6m 0 4 2 0 4 4 0 4 fn4 0 4 kh f 4 g f 4 5r 0 4 6x 2 4 e9",
  "0 4 6a 0 4 45 4 4 1ae 2 4 1 1 4 5 3 4 14 2 4 4 0 4 3k 4 3 0 0 2 1 0 2 1 1",
  "2 2 0 1 0 4 2 0 3 3 0 0 1 0 4 3 0 0 2 0 2 3 0 0 2 2 0 2 0 1 4 4 3 3 0 0 2",
  "40 0 3 0 0 2 0 0 3 0 2 2 0 2 3 0 0 2 0 1 3 0 0 2 0 0 3 0 1 2 0 0 3 0 0 2 n",
  "3 2 0 1 3 9d 0 1 0 w 3 0 0 2 0 0 3 0 3 4 1t 4 4 8t 1 4 l 0 2 0 1 3 1 1 3",
  "1e 5 4 1c 2 3 0 0 2 0 g 3 1 a 4 0 2 3 0 0 2 r 3 3 0 1 2 0 b 3 0 3 4 16 0 3",
  "1 1 3 0 2 2 1 0 3 0 1 2 0 1 3 0 0 2 0 1 3 1 0 3 0 1 2 0 0 3 4 0 2 0 0 3 0",
  "0 1 1h 0 4 1i e 4 15 0 4 2 1 4 a 2 4 1d 3 4 2 1 4 7 0 4 1p 2 4 10 4 4 1 7",
  "4 1q 0 4 c 1 4 1g 8 4 a 3 4 2 0 4 2n 2 4 2 0 4 1 1 4 6 0 4 2 0 4 4d 0 4 3",
  "7 4 l 1 4 1l 1 4 3 0 4 11 6 4 3 4 4 1y 5 4 d 0 4 1 0 4 1 0 4 e 1 4 2d 7 4",
  "2 2 4 1 0 4 n 0 4 2c 5 4 1 0 4 4 1 4 1 1 4 6m 3 4 6 1 4 1 1 4 r 1 4 2d 7 4",
  "2 0 4 1 1 4 2y 0 4 1 0 4 2 5 4 1 0 4 2t 0 4 1 0 4 2 3 4 1 4 4 77 8 4 1 1 4",
  "74 1 4 1 0 4 4 0 4 40 3 4 2 1 4 4 0 4 w 9 4 14 5 4 2 3 4 8 0 4 9 5 4 2 2 4",
  "1a c 4 1 1 4 5i 0 4 1 2 4 1 0 4 5l 6 4 1 5 4 1 0 4 2a l 4 2 6 4 1 1 4 1 1",
  "4 3e 5 4 3 0 4 1 1 4 1 6 4 1 0 4 20 1 4 3 0 4 1 0 4 9n 1 4 b 1 4 1g 4 4 5",
  "0 4 1 0 4 n 0 4 445 g 4 6 e 4 8ug b 4 3 2 4 1xc 4 4 1n 6 4 t4 0 4 1r 3 4",
  "29 0 4 f5k 1 4 1 3 4 3mk 19 4 2 m 4 f4 2 4 9 f 4 2 6 4 u 3 4 44 2 4 1iz 1i",
  "4 4 1d 4 8 0 4 e 0 4 m 4 4 1 e 4 11s 6 4 1 g 4 2 6 4 1 1 4 1 4 4 2s 0 4 4g",
  "6 4 af 0 4 1p 3 4 e4 3 4 72 1 4 6r 0 4 2 0 4 7 1 4 5 0 4 d6 6 4 15 1v 3 0",
  "7 4 gzat 0 4 u 2n 4 3k 6n 4"]

-- ============================================================ joiners

/-- The class of a sign that takes a consonant's vowel away. -/
def silencer : Nat := 9

/-- Whether the nearest character that joining does not pass over has one
of the types. -/
def meetsJoining (types : List Nat) (cs : List Char) : Bool :=
  match cs.dropWhile fun c => joiningType.of c = 4 with
  | c :: _ => types.contains (joiningType.of c)
  | [] => false

/-- Whether the joining characters among the second text stand where they
may; the first text is what comes before, nearest first. -/
def joinersFit (before : List Char) : List Char → Bool
  | [] => true
  | c :: rest =>
      let silenced :=
        before.head?.any fun b => Unicode.combiningClass.of b = silencer
      let fits :=
        if c = '\u200c' then
          silenced || (meetsJoining [1, 3] before && meetsJoining [2, 3] rest)
        else if c = '\u200d' then silenced
        else true
      fits && joinersFit (c :: before) rest

-- ============================================================ labels

/-- Whether a label in Unicode characters may be used. -/
def isUsable (label : List Char) : Bool :=
  label.all isAscii
    || (Unicode.composed label == label
      && label.all kept.contains
      && !(label.head?.any marks.contains)
      && joinersFit [] label)

/-- The start of a label in Punycode. -/
def punycodeMark : List Char := ['x', 'n', '-', '-']

/-- The label that a text writes. Punycode has to be needed: it may not
write nothing, or ASCII alone. -/
def readLabel (text : List Char) : Option (List Char) :=
  if punycodeMark.isPrefixOf text then
    (Punycode.decode (text.drop 4)).filter fun label => !label.all isAscii
  else some text

/-- The text that writes a label in ASCII. -/
def writeLabel (label : List Char) : List Char :=
  if label.all isAscii then label else punycodeMark ++ Punycode.encode label

end SchemaDocs.Url.Domain
