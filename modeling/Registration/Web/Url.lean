import Registration.Text.Digit
import Registration.Web.Host

/-!
# URLs

A URL has a scheme, a host with a user and a port, a path, a query and a fragment, any of which may
be missing. Reading one brings it into the form in which it is sent: scheme and host in lower case,
the scheme's usual port left out, steps through the path taken, and everything else escaped that may
not stand as it is.
-/

namespace Registration.Web

open Registration.Text

/-- A URL as it is sent; what is missing is empty, but a query, a fragment and a port may also be
there and empty or zero. -/
structure Url where
  scheme : List Char
  user : List Char
  host : List Char
  port : Option Int
  path : List Char
  query : Option (List Char)
  fragment : Option (List Char)
  deriving DecidableEq

namespace Url

/-! ## Parts of a text -/

/-- The parts of a URL as they are written. -/
structure Parts where
  scheme : List Char
  authority : List Char
  path : List Char
  query : Option (List Char)
  fragment : Option (List Char)

def isLetter (c : Char) : Bool := ('a' ≤ c && c ≤ 'z') || ('A' ≤ c && c ≤ 'Z')

def isSchemeChar (c : Char) : Bool :=
  isLetter c || (asciiDigit? c).isSome || c = '+' || c = '.' || c = '-'

/-- The scheme before a colon, perhaps none but the colon, and the rest. -/
def splitScheme (cs : List Char) : List Char × List Char :=
  let scheme := cs.takeWhile isSchemeChar
  match cs.dropWhile isSchemeChar with
  | ':' :: rest => if scheme.isEmpty || scheme.head?.any isLetter then (scheme, rest) else ([], cs)
  | _ => ([], cs)

/-- The host with user and port between two slashes and the path, and the rest. -/
def splitAuthority (cs : List Char) : List Char × List Char :=
  let isEnd (c : Char) : Bool := c = '/' || c = '?' || c = '#'
  match cs with
  | '/' :: '/' :: rest => (rest.takeWhile fun c => !isEnd c, rest.dropWhile fun c => !isEnd c)
  | _ => ([], cs)

/-- What stands before a mark, and what stands behind it if it is there. -/
def splitAt (mark : Char) (cs : List Char) : List Char × Option (List Char) :=
  match cs.dropWhile (· ≠ mark) with
  | _ :: rest => (cs.takeWhile (· ≠ mark), some rest)
  | [] => (cs, none)

def partsOf (cs : List Char) : Parts :=
  let (scheme, rest) := splitScheme cs
  let (authority, rest) := splitAuthority rest
  let (rest, fragment) := splitAt '#' rest
  let (path, query) := splitAt '?' rest
  ⟨scheme, authority, path, query, fragment⟩

/-! ## Parts of a host -/

/-- What stands before the last mark, and what stands behind it. -/
def splitAtLast (mark : Char) (cs : List Char) : List Char × List Char :=
  if cs.contains mark then
    ((cs.reverse.dropWhile (· ≠ mark)).drop 1 |>.reverse,
      (cs.reverse.takeWhile (· ≠ mark)).reverse)
  else ([], cs)

/-- The host and the port behind it. -/
def splitPort (cs : List Char) : List Char × List Char :=
  let (host, rest) :=
    if cs.head? = some '[' ∧ cs.contains ']' then
      ((splitAtLast ']' cs).1 ++ [']'], (splitAtLast ']' cs).2)
    else (cs.takeWhile (· ≠ ':'), cs.dropWhile (· ≠ ':'))
  (host, if rest.head? = some ':' then rest.drop 1 else rest)

def usualPort? (scheme : List Char) : Option Int :=
  ([("ftp", 21), ("http", 80), ("https", 443), ("ws", 80), ("wss", 443)].find? fun p =>
    p.1.toList == scheme).map (·.2)

/-- The port that a text names, none for the usual one; there may be none that it names. -/
def port? (scheme cs : List Char) : Option (Option Int) :=
  if cs.isEmpty then some none
  else (whole? cs).map fun n => if usualPort? scheme = some n then none else some n

/-! ## Paths -/

/-- Takes one step through a path: a dot stays, two dots go back, anything else goes on. The steps
so far are in reverse. -/
def step (done : List (List Char)) (part : List Char) : List (List Char) :=
  if part = ['.'] then done
  else if part = ['.', '.'] then (if done = [] ∨ done = [[]] then done else done.drop 1)
  else part :: done

/-- A path without steps back or on the spot. -/
def walked (path : List Char) : List Char :=
  List.intercalate ['/'] ((split (· = '/') path).foldl step []).reverse

/-- A path that may stand behind what is there: behind a host it begins with a slash, behind neither
host nor scheme with neither two slashes nor a colon. -/
def pathAllowed (hasScheme hasAuthority : Bool) (path : List Char) : Bool :=
  (!hasAuthority || path.isEmpty || path.head? = some '/') &&
    (hasScheme || hasAuthority || !(path.take 2 = ['/', '/'] || path.head? = some ':'))

/-! ## Reading and writing -/

/-- The most characters of a URL or of one of its parts. -/
def maxLength : Nat := 65536

/-- No part is too long. -/
def Parts.areShort (p : Parts) : Bool :=
  [p.scheme, p.authority, p.path, p.query.getD [], p.fragment.getD []].all (·.length ≤ maxLength)

/-- The URL with given parts, in the form in which it is sent. -/
def ofParts? (p : Parts) : Option Url := do
  let (user, rest) := splitAtLast '@' p.authority
  let (host, port) := splitPort rest
  let host ← Host.write? host
  let port ← port? p.scheme port
  let hasScheme := !p.scheme.isEmpty
  let hasAuthority := !user.isEmpty || !host.isEmpty || port.isSome
  if !p.areShort || !pathAllowed hasScheme hasAuthority p.path then none
  else
    let path := if hasScheme || hasAuthority then walked p.path else p.path
    pure {
      scheme := p.scheme.map Char.toLower
      user := escape keptInUser user
      host := host
      port := port
      path := escape keptInPath path
      query := p.query.map (escape keptInQuery)
      fragment := p.fragment.map (escape keptInFragment) }

/-- A control character of ASCII. -/
def isControl (c : Char) : Bool := c.toNat < 0x20 || c.toNat = 0x7f

/-- The URL that a text writes. -/
def read? (s : String) : Option Url :=
  let cs := s.toList
  if maxLength < cs.length || cs.any isControl then none else ofParts? (partsOf cs)

/-- The host with user and port. -/
def authority (u : Url) : List Char :=
  (if u.user.isEmpty then [] else u.user ++ ['@']) ++
    (if u.host.contains ':' then '[' :: u.host ++ [']'] else u.host) ++
    (match u.port with
      | some n => ':' :: intDigits n
      | none => [])

def parts (u : Url) : Parts := ⟨u.scheme, u.authority, u.path, u.query, u.fragment⟩

/-- A part behind a mark, nothing if it is missing. -/
def marked (mark : Char) : Option (List Char) → List Char
  | some cs => mark :: cs
  | none => []

def text (u : Url) : String :=
  String.ofList (
    (if u.scheme.isEmpty then [] else u.scheme ++ [':']) ++
      (if u.authority.isEmpty then [] else '/' :: '/' :: u.authority) ++
      u.path ++ marked '?' u.query ++ marked '#' u.fragment)

/-! ## Use -/

/-- The URL names a scheme and a host to turn to. -/
def isAbsolute (u : Url) : Bool := !u.scheme.isEmpty && !u.host.isEmpty

/-- The URL that a request goes to: of one that names no scheme or no host, only path and query, the
path from the root. -/
def destination? (u : Url) : Option Url :=
  if u.isAbsolute then some u
  else ofParts? ⟨[], [], '/' :: u.path.dropWhile (· = '/'), u.query, none⟩

def withQuery? (u : Url) (query : List Char) : Option Url :=
  ofParts? { u.parts with query := some query }

end Url

end Registration.Web
