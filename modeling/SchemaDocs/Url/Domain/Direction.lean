/-
Writing direction in domain names.

A name in which a right-to-left character occurs must read the same for
everyone, whatever the direction around it. Each of its labels has to
start with a letter, which fixes the label's direction, may hold only
characters that go with that direction, and has to end with a letter or a
digit, marks left aside.
-/
import SchemaDocs.Unicode.Ranges

namespace SchemaDocs.Url.Domain

-- ============================================================ classes

/-- How a character behaves in mixed directions. -/
inductive Direction
  | leftToRight | rightToLeft | arabicLetter | arabicNumber | europeanNumber
  | europeanSeparator | commonSeparator | europeanTerminator | neutral
  | boundary | mark | other
  deriving DecidableEq, Repr

/-- The classes of the table, by their numbers. -/
def Direction.ofNumber : Nat → Direction
  | 0 => leftToRight
  | 1 => rightToLeft
  | 2 => arabicLetter
  | 3 => arabicNumber
  | 4 => europeanNumber
  | 5 => europeanSeparator
  | 6 => commonSeparator
  | 7 => europeanTerminator
  | 8 => neutral
  | 9 => boundary
  | 10 => mark
  | _ => other

/-- The numbers of the classes; the characters in no row go left to right. -/
def directionTable : Unicode.Classes := .ofLines [
  "0 8 9 0 4 b 0 d 9 0 4 b 0 1 8 0 2 7 0 4 8 0 0 5 0 0 6 0 0 5 0 1 6 0 9 4 0",
  "0 6 0 11 8 q 3 8 0 0 9 x 0 8 0 3 7 0 8 8 1 1 7 4 x 8 v 0 8 ch 1 8 7 d 8 2",
  "r 8 1 g 8 0 33 a 5 0 8 3k 0 8 3w 6 a 74 4 8 0 0 7 1 18 a 0 0 1 0 0 a 0 0 1",
  "0 1 a 0 0 1 0 1 a 0 0 1 0 0 a 8 10 1 h 1 8 0 0 2 0 1 7 0 0 2 0 0 6 0 0 2 0",
  "1 8 0 a a 0 1b 2 0 k a 0 9 3 0 0 7 0 1 3 0 2 2 0 0 a 0 2s 2 0 6 a 1 0 8 0",
  "5 a 0 1 2 0 1 a 0 0 8 0 3 a 0 1 2 0 9 4 0 m 2 0 0 a 0 t 2 0 q a 2 2g 2 0 a",
  "a 0 0 2 e 16 1 0 8 a 0 1 1 0 3 8 0 0 1 2 0 a 0 n 1 0 3 a 0 0 1 0 8 a 0 0 1",
  "0 2 a 0 0 1 0 4 a 2 14 1 0 2 a 2 0 1 1 1b 2 7 8 a 0 15 2 0 1k a 1j 0 a 1 0",
  "a 4 7 a 4 0 a 3 6 a a 1 a t 0 a 1m 0 a 4 3 a 8 0 a k 1 a e 1 7 7 0 7 2 4 a",
  "1l 0 a 4 g a u 1 a 3 0 a b 1 a 1l 0 a 4 7 a 4 0 a k 1 a d 0 7 8 7 a 1m 0 a",
  "2 0 a 1 3 a 8 9 a b 1 a u 0 a 1p 0 a c 0 a 11 5 8 0 0 7 0 0 8 5 0 a 3 0 a",
  "1j 0 a 1 2 a 5 g a b 1 a k 6 8 2 0 a 1m 0 a f 1 a k 1 a s 1 a 1l 1 a 4 3 a",
  "8 0 a k 1 a t 0 a 20 0 a 7 4 a 2i 0 a 2 6 a 4 0 7 7 7 a 2q 0 a 2 8 a b 6 a",
  "21 1 a r 0 a 1 0 a 1 0 a 0 3 8 1f d a 1 4 a 1 1 a 5 1b a 9 0 a 2u 3 a 1 5",
  "a 1 1 a 2 1 a p 1 a 4 2 a g 3 a d 0 a 2 1 a 6 0 a f 0 a jj 2 a 1c 9 8 2u 0",
  "8 ii 1 8 39 2 a t 1 a u 1 a u 1 a 1v 6 a 8 0 a 2 a a 7 0 7 1 0 a i q 8 3e",
  "1 a y 0 a 3a 2 a 4 1 a 9 0 a 6 2 a 4 5 8 48 x 8 n 1 a 2 0 a 1m 0 a 1 8 a 1",
  "0 a 2 7 a 6 c a 1c 2b a 1c 0 a 1 4 a 1 0 a 5 0 a 14 8 a c 1 a w 3 a 2 1 a",
  "1 2 a 1k 0 a 1 1 a 3 0 a 1 2 a 1m 7 a 2 1 a 48 2 a 1 c a 1 6 a 4 0 a 6 0 a",
  "3 1 a 5i 1r a ek 1 9 2 n 8 8 2 7 2 e 8 0 0 6 0 p 8 1t w 7 f w a j 11 8 4 0",
  "7 b j 8 1o 3r 8 0 0 5 0 0 7 0 81 8 1x p 8 1 40 8 p h7 8 1 9e 8 74 id 8 1",
  "2w 8 6d 5 8 4 2 a 7 6 8 3j 0 a 2o v a 0 ec 8 3 o 8 9 3 a 2 0 8 6 0 8 5 2 8",
  "2h 1 a 5 0 8 2i 0 8 5g z 8 5i4 1r 8 h3k 1i 8 92 2 8 2n 3 a 0 0 8 0 9 a 0 1",
  "8 u 1 a 28 1 a e x 8 2u 0 8 3d 0 a 3 0 a 4 0 a p 1 a 1 3 8 0 0 a b 1 7 1m",
  "3 8 24 1 a q h a d 0 a 12 7 a p a a 1a 2 a 1c 0 a 2 3 a 2 1 a 13 0 a 1v 5",
  "a 2 1 a 2 1 a c 0 a 8 0 a 1b 0 a 1f 0 a 1 2 a 2 1 a 5 1 a 1 0 a 16 1 a 8 0",
  "a 37 1 8 3d 0 a 2 0 a 4 0 a fn4 0 a 43 w 2 a3 h 8 1s 1q 2 0 1c 8 w f a l 1",
  "8 18 0 2 i5 0 8 1q 24 8 3 g 8 2k 0 a 6a 0 a 0 q 4 3e 4 a w5 7v 1 3 0 8 0",
  "68 1 0 e a 0 11 1 2 7 a 0 4k 1 0 1 a 4 22 1 3 6 8 0 cf 1 0 z 2 0 3 a 8 9 3",
  "6 f 1 p 4 a 0 x 1 5s u 3 1 15 1 1 1 a 0 4 1 g m 2 x 5 a 0 13 1 8 l 2 0 a a",
  "0 8 2 m h 1 0 3 a 0 34 1 a 0 a 1i e a b j 8 a 0 a 2 1 a a 2 a 1d 3 a 2 1 a",
  "7 0 a 1p 2 a 10 4 a 1 7 a 1q 0 a c 1 a 1g 8 a a 3 a 2 0 a 2n 2 a 2 0 a 1 1",
  "a 6 0 a 2 0 a 4d 0 a 3 7 a l 1 a 1l 1 a 3 0 a 11 e a 1v 0 a 2 e a 4 2 a 1",
  "0 a e 1 a 2d 7 a 2 2 a 1 0 a n 0 a 2c 5 a 1 0 a 4 1 a 1 1 a 6m 3 a 6 1 a 1",
  "1 a r 1 a 2d 7 a 2 0 a 1 1 a v c 8 1q 0 a 1 0 a 2 5 a 1 0 a 2t 2 a 2 3 a 1",
  "4 a 77 8 a 1 1 a 74 1 a 1 0 a 4 0 a 40 7 a 4 0 a w 5 a 2 1 a 14 5 a 2 3 a",
  "8 0 a 9 5 a 2 2 a 1a c a 1 1 a 5i 0 a 1 2 a 1 0 a 5l d a 2c l a 2 6 a 1 1",
  "a 1 1 a 3e k a 1 0 a 20 1 a 3 0 a 1 0 a 9n 1 a b 1 a 1g 4 a 5 0 a 1 0 a n",
  "0 a 3e 7 8 0 3 7 0 g 8 40e 0 a 6 e a 8ug b a 3 2 a 1xc 4 a 1n 6 a t4 0 a",
  "1r 3 a 27 0 8 1 0 a f5k 1 a 3mp 1y a f4 2 a h 7 a 2 6 a u 3 a 1n 2g 8 0 2",
  "a 0 0 8 56 2e 8 1bd 1i a 4 1d a 8 0 a e 0 a m k a 11s 3z a 4g 6 a af 0 a",
  "1p 3 a f 0 7 do 3 a 72 1 a 6r 0 a 2 0 a 7 1 a 5 0 a 7e 5r 1 0 6 a 23 x 1 0",
  "6 a 0 k 1 lt 5o 2 c2 fz 8 1p 2 8 1p 0 8 4y vr 8 4 4a 8 4 8m 8 26 9f 8 c 14",
  "8 7 19 8 1 6 8 8 d 8 4 8 8 7 62 8"]

/-- The class of a character. -/
def direction (c : Char) : Direction := .ofNumber (directionTable.of c)

-- ============================================================ labels

/-- Whether a character makes its name a right-to-left one. -/
def Direction.isRightward (d : Direction) : Bool :=
  [rightToLeft, arabicLetter, arabicNumber].contains d

/-- The classes that go with both directions. -/
def Direction.isShared (d : Direction) : Bool :=
  [europeanNumber, europeanSeparator, commonSeparator, europeanTerminator,
    neutral, boundary, mark].contains d

/-- The class that a label ends with, marks left aside. -/
def lastDirection (ds : List Direction) : Option Direction :=
  ds.reverse.find? (· ≠ .mark)

/-- Whether a label may stand in a right-to-left name. -/
def flowsWell (label : List Char) : Bool :=
  let ds := label.map direction
  match ds with
  | [] => true
  | .leftToRight :: _ =>
      ds.all (fun d => d = .leftToRight || d.isShared)
        && (lastDirection ds).any fun d =>
          [.leftToRight, .europeanNumber].contains d
  | .rightToLeft :: _ | .arabicLetter :: _ =>
      ds.all (fun d => d.isRightward || d.isShared)
        && ((lastDirection ds).any fun d =>
          d.isRightward || d = .europeanNumber)
        && !(ds.contains .europeanNumber && ds.contains .arabicNumber)
  | _ => false

/-- Whether the labels of a name go together. -/
def labelsFlow (labels : List (List Char)) : Bool :=
  !(labels.any fun label => label.any fun c => (direction c).isRightward)
    || labels.all flowsWell

end SchemaDocs.Url.Domain
