/-
Lower case.

Each character has one lower-case form, with two exceptions. The capital
I with a dot becomes an i and a combining dot, and the capital sigma
becomes a final sigma where it ends a word: a cased letter stands before
it and none after it, characters that case passes over left aside.
-/
import SchemaDocs.Unicode.Ranges

namespace SchemaDocs.Unicode

-- ============================================================ tables

/-- The characters whose lower-case form is another single character. -/
def lowerForms : Shifts := .ofLines [
  "1t 1g 1s 2t 1a 1s 1 e 1s x 1d 2 3 7 2 2 h 2 2 1b 2 1 2 6p 0 7 2 3 2 bo 0 5",
  "2 1 2 bg 0 2 2 1 4 be 0 2 2 2 2 4e 0 2 b8 0 2 ba 0 2 2 1 2 be 0 2 bi 1 2",
  "bq 0 2 bm 0 2 2 3 2 bq 0 2 bu 1 2 bw 0 7 2 1 2 c4 0 2 2 1 2 c4 2 2 2 1 2",
  "c4 0 2 2 1 4 c2 0 5 2 1 2 c6 0 2 2 3 2 2 7 2 4 0 2 2 1 2 4 0 2 2 1 2 4 0 j",
  "2 2 j 2 2 2 4 0 5 2 1 2 5d 0 2 33 0 15 2 1 2 77 1 j 2 7 2 gnq 0 2 2 1 2 91",
  "0 2 gnk 2 2 2 1 2 at 0 2 3u 0 2 3y 0 b 2 81 5 2 3 2 2 8 2 6g 6 2 24 1 6 22",
  "1 2 3k 1 4 3i 1 y 1s 1 i 1s z 2 g 8 p 2 5 2 3b 2 2 2 1 2 d 0 2 2 2 6 77 0",
  "w 4g 0 1s 1s 1c z 2 9 1j 2 1 2 u 0 f 2 2 2p 2 2 24 2o 289 24 b7k 1 2 b7k 5",
  "2 b7k k2 4g 1nz4 0 c g 1oz 2 2 6 2e 4n3 2 6 4n3 8w 47 2 9 2 br1 1 2p 2 9 g",
  "f 8 c f a g f 8 g f 8 c f b 9 f 8 g f o g f 8 g f 8 g f 8 4 f 0 4 43 0 2 h",
  "b 8 4r 0 2 h b 4 f 0 4 5j c 4 f 0 4 67 0 2 d b 4 73 0 4 6z 0 2 h 89 2 bll",
  "3 2 cxp 0 2 cqz 6 2 1k 19 w w j 2 2 mq 1g 1g 1f4 2o 2o 1c 2 2 1 2 gkt 0 2",
  "5vv 0 2 gjx 2 7 2 1 2 gmv 0 2 gl5 0 2 gn1 0 2 gmz 1 2 2 2 2 2 8 4 got 0 2t",
  "2 8 5 2 4 2 2 nyl 1b 2 j t 2 3r f 2 3 1r 2 a 5 2 1 2 1iiv 0 b 2 4 2 2 1 2",
  "1t8v 2 5 2 3 l 2 1 2 1taf 0 2 1tb1 0 2 1tat 0 2 1ta9 0 2 1taf 1 2 1t7n 0 2",
  "1t8z 0 2 1t7t 0 2 1fk 0 h 2 1 2 2n 0 2 1tad 0 2 1ilr 0 5 2 1 2 1tcd 0 h 2",
  "1 2 1toh o 2 2 h7v 1g 1s xx 28 28 3s 20 28 4c m 26 1 u 26 1 e 26 1 4 26",
  "1d6 2u 3k 4d 18 1s 27u 1s 1s gw0 1s 1s 1s 1e 1i o5j 1w 1w"]

/-- The letters that have case. -/
def casedLetters : Ranges := .ofLines [
  "1t p 6 p 1b 0 a 0 4 0 5 m 1 u 1 5e 1 3 4 5r 2 y 7 1 u 4 2o 0 16 3 2 1 2 3",
  "1 0 6 0 1 2 1 0 1 j 1 2a 1 3u 8 4l 1 11 9 14 26v 11 1 0 5 0 2 16 1 3 io 2d",
  "2 5 1oi a 5 16 2 2 1s 5b 1s 7p 2 5 2 11 2 5 2 7 1 0 1 0 1 0 1 u 2 1g 1 6 1",
  "0 3 2 1 6 3 3 2 5 4 c 5 2 1 6 38 0 d 0 g c 2t 0 4 0 2 9 1 0 3 4 6 0 1 0 1",
  "0 1 3 1 5 4 0 2 3 5 4 4 0 h v 3 1 mp 1f 1ee 6c 6 3 3 1 c 11 1 0 5 0 nwy 19",
  "i t 3o 2t 3 3 1 24 k 5 1 2 mt 16 1 d 6 27 fnk 6 c 4 sp p 6 p x1 27 2o z 4",
  "z 38 a 1 e 1 6 1 1 1 a 1 e 1 6 1 1 cj 0 2 2 1 15 1 8 xx 1e d 1e 2l l a l",
  "26y 1r gv4 1r w o 2 o jzg 2c 1 1y 1 1 2 0 2 1 2 3 1 b 1 0 1 6 1 1s 1 3 2 7",
  "1 6 1 r 1 3 1 4 1 0 3 6 1 9f 2 o 1 o 1 u 1 o 1 u 1 o 1 u 1 o 1 u 1 o 1 7",
  "1f8 9 1 j 6 5 79 1p 1oy 1v 1kc p 6 p 6 p"]

/-- The characters that case passes over. -/
def caseIgnorable : Ranges := .ofLines [
  "13 0 6 0 b 0 z 0 1 0 1z 0 4 0 1 0 4 0 2 1 dz 5b 4 1 4 0 9 1 1 0 6z 6 5r 0",
  "5 0 1d 18 1 0 1 1 1 1 1 0 18 0 b 5 a a 1 0 z 0 a k g 0 2t 7 1 9 1 3 x 0 1",
  "0 u q 2j a 1m a 4 0 2 0 o n 17 2 18 0 7 1 5 8 15 1l 1j 0 1 0 4 7 4 0 3 6 a",
  "1 d 0 f 0 1m 0 4 3 8 0 k 1 q 0 2 1 1l 0 4 1 4 1 2 2 3 0 u 1 3 0 b 1 1l 0 4",
  "4 1 1 4 0 k 1 m 5 1 0 1m 0 2 0 1 3 8 0 7 1 b 1 u 0 1p 0 c 0 1e 0 3 0 1j 0",
  "1 2 5 2 1 3 7 1 b 1 t 0 1m 0 2 0 6 0 5 1 k 1 s 1 1l 1 4 3 8 0 k 1 t 0 20 0",
  "7 2 1 0 2i 0 2 6 b 8 2q 0 2 8 9 0 1 6 21 1 r 0 1 0 1 0 1j d 1 4 1 1 5 a 1",
  "z 9 0 2u 3 1 5 1 1 2 1 p 1 4 2 g 3 d 0 2 1 6 0 f 0 2m 0 gw 2 qa 2 t 1 u 1",
  "u 1 1s 1 1 6 8 0 2 a 3 0 5 0 19 4 1f 0 1t 1 y 0 3a 2 4 1 9 0 6 2 63 1 2 0",
  "1m 0 1 6 1 0 1 0 2 7 6 9 2 0 13 0 8 19 2 b k 3 1c 0 1 4 1 0 5 0 14 8 c 1 w",
  "3 2 1 1 2 1k 0 1 1 3 0 1 2 1m 7 2 1 1s 5 2a 2 1 c 1 6 4 0 6 0 3 1 1e 1q d",
  "0 y 2s cd 0 1 2 b 2 d 2 d 2 d 1 c 4 8 1 a 0 2 0 2 4 1d 4 1 9 1 0 d 0 g c",
  "1f w 2a3 1 35 2 3h 0 f 0 2o v 1b 0 d1 0 10 3 3 4 5 0 2l 5 2l 2 lxy 0 yq 5",
  "7i 0 2q 3 1 9 1 0 s 3 28 1 e x 26 0 n 2 2u 3 3 1 8 0 3 0 4 0 p 1 5 0 47 1",
  "q h d 0 12 7 p a 1a 2 1c 0 2 3 2 1 h 0 l 1 1u 5 2 1 2 1 c 0 8 0 z 0 b 0 1f",
  "0 1 2 2 1 5 1 1 0 r 0 e 1 5 1 1 0 2s 4 9 2 3d 0 2 0 4 0 fn4 0 43 g fx f 3",
  "0 c f y 0 2 0 4p 0 7 0 6 0 b 0 z 0 1 0 1b 0 19 1 1v 0 l 2 e9 0 6a 0 45 4",
  "sl 5 1 15 1 8 g6 2 1 1 5 3 14 2 4 0 4l 1 fx 3 12 0 q 4 1 0 8r 1 o 0 1g 5",
  "1y a 1d 3 3f 0 1i e 15 0 2 1 a 2 1d 3 2 1 2 0 4 0 a 0 1e 2 10 4 1 7 1q 0 c",
  "1 1g 8 a 3 2 0 2n 2 2 0 1 1 6 0 2 0 4d 0 3 7 l 1 1l 1 3 0 11 6 3 4 1y 5 d",
  "0 1 0 1 0 e 1 2d 7 2 2 1 0 n 0 2c 5 1 0 4 1 1 1 6m 3 6 1 1 1 r 1 2d 7 2 0",
  "1 1 2y 0 1 0 2 5 1 0 2t 0 1 0 2 3 1 4 77 8 1 1 74 1 1 0 4 0 40 3 2 1 4 0 w",
  "9 14 5 2 3 8 0 9 5 2 2 1a c 1 1 5i 0 1 2 1 0 5l 6 1 5 1 0 2a l 2 6 1 1 1 1",
  "3e 5 3 0 1 1 1 6 1 0 20 1 3 0 1 0 1t 0 7t 1 b 1 1g 4 5 0 1 0 n 0 445 g 6 e",
  "8ug b 3 2 1xc 4 1n 6 9 3 e4 2 14 1 de 0 1r g 1s 1 1 1 d 1 cn0 3 1 6 1 1",
  "2hq 1 1 3 3mk 19 2 m f4 2 9 f 2 6 u 3 44 2 1iz 1i 4 1d 8 0 e 0 m 4 1 e 11s",
  "6 1 g 2 6 1 1 1 4 5 1p x 0 4g d a8 0 1p 3 e3 4 72 1 6r 0 2 0 7 1 5 0 9 0",
  "cw 6 31 7 23z 4 gx6p 0 u 2n 3k 6n"]

-- ============================================================ lowering

/-- Whether the first character that case does not pass over has case. -/
def meetsCased (cs : List Char) : Bool :=
  match cs.dropWhile caseIgnorable.contains with
  | c :: _ => casedLetters.contains c
  | [] => false

/-- The lower-case form of `c` between the characters `before`, nearest
first, and the characters `after`. -/
def lowerAt (before : List Char) (c : Char) (after : List Char) : List Char :=
  if c = '\u03a3' then
    if meetsCased before && !meetsCased after then ['\u03c2'] else ['\u03c3']
  else if c = '\u0130' then ['i', '\u0307']
  else [(lowerForms.find? c).getD c]

/-- The lower-case form of a text whose start, last character first, is
`before`. -/
def lowerAfter (before : List Char) : List Char → List Char
  | [] => []
  | c :: rest => lowerAt before c rest ++ lowerAfter (c :: before) rest

/-- The text in lower case. -/
def lower (text : String) : String :=
  String.ofList (lowerAfter [] text.toList)

end SchemaDocs.Unicode
