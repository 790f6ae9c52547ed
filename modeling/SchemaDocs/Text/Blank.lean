/-
Blank characters, and trimming them.

A character is blank when Unicode lists it as white space. That takes in
the no-break space, the ideographic space and the two separators U+2028
and U+2029, and leaves out the zero-width space and the byte order mark.
Everything works on lists of characters; `String` faces follow.
-/

namespace SchemaDocs.Text

-- ====================================================== the characters

/-- Unicode's white space: six ranges and six single characters. -/
def isBlank (c : Char) : Bool :=
  let n := c.toNat
  (9 ≤ n && n ≤ 13) || n == 0x20 || n == 0x85 || n == 0xA0 || n == 0x1680
    || (0x2000 ≤ n && n ≤ 0x200A) || n == 0x2028 || n == 0x2029 || n == 0x202F
    || n == 0x205F || n == 0x3000

-- ============================================================ trimming

/-- The text without the longest run at its end that `p` accepts. -/
def dropEndWhile (p : Char → Bool) (cs : List Char) : List Char :=
  (cs.reverse.dropWhile p).reverse

/-- The text without the runs at both ends that `p` accepts. -/
def stripWhile (p : Char → Bool) (cs : List Char) : List Char :=
  dropEndWhile p (cs.dropWhile p)

/-- The text without blanks at its end. -/
def trimEnd (s : String) : String :=
  String.ofList (dropEndWhile isBlank s.toList)

/-- Whether the text holds something to read. -/
def hasInk (s : String) : Bool :=
  s.toList.any fun c => !isBlank c

end SchemaDocs.Text
