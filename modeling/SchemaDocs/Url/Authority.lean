/-
What stands between a scheme and a path.

The authority of an address is a user name and a password before the last
at sign, a host, and a port after a colon. It is read the same way for
every scheme; how its host is read depends on the scheme.
-/
import SchemaDocs.Url.Host

namespace SchemaDocs.Url

-- ============================================================ slicing

/-- Whether a character ends an authority; the backslash does so on the web. -/
def endsAuthority (web : Bool) (c : Char) : Bool :=
  c = '/' || c = '?' || c = '#' || (web && c = '\\')

/-- The text before and after the last character `mark`, if there is one. -/
def splitLast (mark : Char) (cs : List Char) :
    Option (List Char × List Char) :=
  if cs.contains mark then
    let after := (cs.reverse.takeWhile (· ≠ mark)).reverse
    some (cs.take (cs.length - after.length - 1), after)
  else none

/-- The text before and after the first character that `p` accepts, with
that character in the second part. -/
def cut (p : Char → Bool) (cs : List Char) : List Char × List Char :=
  (cs.takeWhile fun c => !p c, cs.dropWhile fun c => !p c)

/-- A host and the text after it: up to the first colon outside brackets. -/
def cutHost (inside : Bool) : List Char → List Char × List Char
  | [] => ([], [])
  | c :: rest =>
      if c = ':' && !inside then ([], c :: rest)
      else
        let (host, after) := cutHost (c = '[' || (c ≠ ']' && inside)) rest
        (c :: host, after)

-- ============================================================ credentials

/-- A user name and a password as they stand in an address, with the colon
between them and without an empty password. -/
def writeUser (text : List Char) : List Char :=
  let (name, rest) := cut (· = ':') text
  let password := rest.drop 1
  escapeUnless standsInUser name
    ++ if password.isEmpty then []
      else ':' :: escapeUnless standsInUser password

-- ============================================================ ports

/-- The port after a host: nothing, or a colon and a number below 65536,
which may be left out. -/
def readPort : List Char → Except Fault (Option Nat)
  | ':' :: digits =>
      if digits.all Char.isDigit then
        if digits.isEmpty then .ok none
        else
          match Ipv4.inBase 10 digits with
          | some port => if port < 65536 then .ok (some port) else .error .port
          | none => .error .port
      else .error .port
  | _ => .ok none

-- ============================================================ authorities

/-- An authority: the user's part as it stands in an address, the host and
the port. -/
structure Authority (η : Type) where
  user : List Char
  host : η
  port : Option Nat

/-- Reads an authority; `readHost` reads its host. -/
def readAuthority {η : Type} (readHost : List Char → Except Fault η)
    (text : List Char) :
    Except Fault (Authority η) :=
  let (user, place) :=
    match splitLast '@' text with
    | some (user, place) => (writeUser user, place)
    | none => ([], text)
  let (hostText, portText) := cutHost false place
  match readHost hostText with
  | .error fault => .error fault
  | .ok host =>
      match readPort portText with
      | .error fault => .error fault
      | .ok port => .ok ⟨user, host, port⟩

/-- The host of a web address; it may not be left out. -/
def readWebHost (text : List Char) : Except Fault Host :=
  if text.isEmpty then .error .emptyHost else Host.read text

-- ============================================================ other schemes

/-- Whether a character may not stand in the host of another scheme. -/
def isForbiddenElsewhere (c : Char) : Bool :=
  "\x00\t\n\r #/:<>?@[\\]^|".toList.contains c

/-- Checks the host of a scheme that the web does not know. -/
def checkOtherHost (text : List Char) : Except Fault Unit :=
  if text.head? = some '[' then (Host.readBracketed text).map fun _ => ()
  else if text.any isForbiddenElsewhere then .error .hostCharacter
  else .ok ()

/-- Checks the authority of a scheme that the web does not know. The host
may be left out where nothing stands beside it. -/
def checkOther (rest : List Char) : Except Fault Unit :=
  match rest with
  | '/' :: '/' :: rest =>
      let (text, after) := cut (endsAuthority false) rest
      let emptyUser :=
        text.head? = some '@' && text.length = 1 && !after.isEmpty
      let (hostText, portText) :=
        cutHost false (((splitLast '@' text).map Prod.snd).getD text)
      let user :=
        ((splitLast '@' text).map fun (user, _) => writeUser user).getD []
      if emptyUser then .error .emptyHost
      else
        match checkOtherHost hostText with
        | .error fault => .error fault
        | .ok () =>
            if hostText.isEmpty
                && (portText.head? = some ':' || !user.isEmpty) then
              .error .emptyHost
            else (readPort (portText.takeWhile (· ≠ '\\'))).map fun _ => ()
  | _ => .ok ()

/-- Whether a host is a drive letter, which makes it part of a file's path. -/
def isDrive : List Char → Bool
  | [letter, mark] => letter.isAlpha && (mark = ':' || mark = '|')
  | _ => false

/-- Checks the host of a file's address, which may be left out. -/
def checkFile (rest : List Char) : Except Fault Unit :=
  match rest with
  | a :: b :: rest =>
      if (a = '/' || a = '\\') && (b = '/' || b = '\\') then
        let (text, _) := cut (endsAuthority true) rest
        if text.isEmpty || isDrive text then .ok ()
        else (Host.read text).map fun _ => ()
      else .ok ()
  | _ => .ok ()

end SchemaDocs.Url
