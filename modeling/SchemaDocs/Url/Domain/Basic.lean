/-
Domain names.

A name is mapped to preferred characters, cut into labels at its dots,
and each label is read, checked and written in ASCII. A name may hold
empty labels and labels of any length. A handful of ASCII characters that
mean something elsewhere in a URL may not stand in a name, and no capital
may be left in it.
-/
import SchemaDocs.Url.Domain.Direction
import SchemaDocs.Url.Domain.Label
import SchemaDocs.Url.Ipv4

namespace SchemaDocs.Url.Domain

/-- The characters that may not stand in a mapped name. -/
def isForbidden (c : Char) : Bool :=
  c.toNat ≤ 0x20 || c.toNat == 0x7F || c.isUpper
    || "%#/:<>?@[\\]^|".toList.contains c

/-- A label from the text of a mapped name, if it may be used. -/
def checkedLabel (text : List Char) : Option (List Char) :=
  (readLabel text).filter isUsable

/-- The ASCII form of a name, if it is a domain name. -/
def toAscii (name : List Char) : Option (List Char) := do
  let text ← mapped name
  if text.any isForbidden then none
  else do
    let labels ← (Ipv4.splitOn '.' text).mapM checkedLabel
    if labelsFlow labels then some (['.'].intercalate (labels.map writeLabel))
    else none

end SchemaDocs.Url.Domain
