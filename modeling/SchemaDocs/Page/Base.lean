/-
The base of a documentation site.

Pages link to one another under the address of the site, its base. A base
is made from the address of any page of the site: the query and the
fragment are dropped, and so are slashes at the end of the path, so that
all pages of a site give the same base. The address is read by the rules
of the web's URL standard.
-/
import SchemaDocs.Text.Blank
import SchemaDocs.Url.Authority

namespace SchemaDocs

open Url (Fault Host)

-- ============================================================ bases

/-- The schemes of the web. -/
inductive Scheme
  | http | https
  deriving DecidableEq, Repr

/-- The name of a scheme. -/
def Scheme.name : Scheme → String
  | http => "http"
  | https => "https"

/-- The port that an address means when it names none. -/
def Scheme.port : Scheme → Nat
  | http => 80
  | https => 443

/-- The base of a site: no query, no fragment, and a path that does not
end in an empty segment. `user` is empty or ends before its at sign. -/
structure PageBase where
  scheme : Scheme
  user : List Char
  host : Host
  port : Option Nat
  path : List (List Char)
  deriving DecidableEq, Repr

namespace PageBase

/-- The characters of a base. -/
def chars (base : PageBase) : List Char :=
  base.scheme.name.toList ++ "://".toList
    ++ (if base.user.isEmpty then [] else base.user ++ ['@'])
    ++ base.host.write
    ++ (match base.port with
        | some port => ':' :: Nat.toDigits 10 port
        | none => [])
    ++ base.path.flatMap ('/' :: ·)

/-- A base as text. -/
def text (base : PageBase) : String := String.ofList base.chars

/-- The page of the type `name`. The name is not escaped. -/
def pageUrl (base : PageBase) (name : String) : String :=
  base.text ++ "/?page=printType:" ++ name

/-- The base of a site that is served from this machine. -/
def standard : PageBase :=
  { scheme := .http, user := [], host := .name "localhost".toList
    port := some 3000, path := [] }

-- ============================================================ paths

/-- Whether a segment stands for the directory itself. -/
def isHere (segment : List Char) : Bool :=
  [".", "%2e"].contains (String.ofList (segment.map Char.toLower))

/-- Whether a segment stands for the directory above. -/
def isAbove (segment : List Char) : Bool :=
  ["..", "%2e.", ".%2e", "%2e%2e"].contains
    (String.ofList (segment.map Char.toLower))

/-- Follows segments from a directory, whose segments come last first. A
dot segment at the end leaves the directory open, with an empty segment. -/
def walk (reached : List (List Char)) : List (List Char) → List (List Char)
  | [] => reached
  | segment :: rest =>
      let shut (above : List (List Char)) :=
        if rest.isEmpty then [] :: above else above
      if isAbove segment then walk (shut reached.tail) rest
      else if isHere segment then walk (shut reached) rest
      else walk (segment :: reached) rest

/-- The segments between slashes; always at least one. -/
def segments : List Char → List (List Char)
  | [] => [[]]
  | c :: rest =>
      if c = '/' ∨ c = '\\' then [] :: segments rest
      else
        match segments rest with
        | segment :: more => (c :: segment) :: more
        | [] => [[c]]

/-- The path that a text writes, without the empty segments at its end. -/
def readPath (text : List Char) : List (List Char) :=
  let written :=
    (segments (text.drop 1)).map (Url.escapeUnless Url.standsInPath)
  ((walk [] written).dropWhile (·.isEmpty)).reverse

-- ============================================================ addresses

/-- The scheme that a text starts with, in lower case, and the text after
its colon. -/
def splitScheme (cs : List Char) : Option (List Char × List Char) :=
  let isPart (c : Char) := c.isAlphanum || c = '+' || c = '-' || c = '.'
  let (name, rest) := Url.cut (fun c => !isPart c) cs
  match rest with
  | ':' :: after =>
      if name.head?.any Char.isAlpha then some (name.map Char.toLower, after)
      else none
  | _ => none

/-- Reads what follows the scheme of a web address. -/
def readWeb (scheme : Scheme) (rest : List Char) : Except Fault PageBase :=
  let place := rest.dropWhile fun c => c = '/' ∨ c = '\\'
  let (authority, after) := Url.cut (Url.endsAuthority true) place
  match Url.readAuthority Url.readWebHost authority with
  | .error fault => .error fault
  | .ok read =>
      let path := after.takeWhile fun c => c ≠ '?' ∧ c ≠ '#'
      .ok
        { scheme, user := read.user, host := read.host
          port := read.port.filter (· ≠ scheme.port)
          path := readPath path }

/-- Why an address of another scheme is refused: for itself, or else for
its scheme. -/
def otherFault (name rest : List Char) : Fault :=
  let checked : Except Fault Unit :=
    if ["ws", "wss", "ftp"].contains (String.ofList name) then
      (readWeb .http rest).map fun _ => ()
    else if name = "file".toList then Url.checkFile rest
    else Url.checkOther rest
  match checked with
  | .error fault => fault
  | .ok () => .scheme (String.ofList name)

/-- Reads an address from which blanks and line breaks are gone. -/
def readAddress (cs : List Char) : Except Fault PageBase :=
  match splitScheme cs with
  | none => .error .relative
  | some (name, rest) =>
      if name = "http".toList then readWeb .http rest
      else if name = "https".toList then readWeb .https rest
      else .error (otherFault name rest)

/-- An address that is not the base of a site. -/
structure Refused where
  address : String
  fault : Fault
  deriving DecidableEq, Repr

/-- The wording of a refusal. It quotes the address as it was given. -/
def Refused.message (refused : Refused) : String :=
  "Invalid base URL '" ++ refused.address ++ "': " ++ refused.fault.message

/-- The address without blanks around it, without control characters
around what is left, and without tabs and line breaks inside. -/
def bare (cs : List Char) : List Char :=
  (Text.stripWhile (·.toNat ≤ 0x20) (Text.stripWhile Text.isBlank cs)).filter
    fun c => c ≠ '\t' ∧ c ≠ '\n' ∧ c ≠ '\r'

/-- The base of the site that an address belongs to. -/
def parse (address : String) : Except Refused PageBase :=
  match readAddress (bare address.toList) with
  | .ok base => .ok base
  | .error fault => .error ⟨address, fault⟩

end PageBase

end SchemaDocs
