import Xnestjs.Model.DoubleRounding
import Mathlib.Data.List.TakeWhile

/-!
# URLs and numbers in texts

`new URL(text)` for schemes other than the special ones of the web, as the URL standard
reads them: the authority ends at the first `/`, `?` or `#`, its user information at the last `@`,
the host at the first `:` outside brackets. User information and host come out
percent-encoded. What the standard does with a special scheme, and how it writes an IPv6
address, are parameters.
-/

set_option autoImplicit false

namespace Xnestjs.Model

/-- The parts of a `URL` object that its readers use. -/
structure Url where
  protocol : String
  username : String
  password : String
  hostname : String
  port : String
  pathname : String
  deriving DecidableEq, Repr

/-! ## Percent-encoding -/

def hexDigit (n : ℕ) : Char := ['0', '1', '2', '3', '4', '5', '6', '7', '8', '9', 'A', 'B',
  'C', 'D', 'E', 'F'].getD n '0'

/-- A character as the escapes of its UTF-8 bytes. -/
def escapes (c : Char) : List Char :=
  (String.utf8EncodeChar c).flatMap fun b =>
    ['%', hexDigit (b.toNat / 16), hexDigit (b.toNat % 16)]

/-- Escape the characters of a set. -/
def percentEncode (encodes : Char → Bool) (s : List Char) : List Char :=
  s.flatMap fun c => if encodes c then escapes c else [c]

/-- The C0 control percent-encode set. -/
def controlSet (c : Char) : Bool := c.toNat < 0x20 || 0x7E < c.toNat

/-- The path percent-encode set. -/
def pathSet (c : Char) : Bool :=
  controlSet c || c ∈ [' ', '\x22', '#', '<', '>', '?', '^', '\x60', '\x7b', '\x7d']

/-- The userinfo percent-encode set. -/
def userinfoSet (c : Char) : Bool :=
  pathSet c || c ∈ ['/', ':', ';', '=', '@', '[', '\x5c', ']', '|']

/-- The characters that no host may have. -/
def forbiddenInHost (c : Char) : Bool :=
  c ∈ ['\x00', '\t', '\n', '\r', ' ', '#', '/', ':', '<', '>', '?', '@', '[', '\x5c', ']', '^', '|']

/-! ## Numbers in texts -/

/-- Whether a text begins with a minus sign, and what follows its sign. -/
def readSign : List Char → Bool × List Char
  | '-' :: s => (true, s)
  | '+' :: s => (false, s)
  | s => (false, s)

/-- `parseInt(text, 10)`: white space, a sign, and as many digits as there are. -/
def parseInt (s : List Char) : Value :=
  let (negative, s) := readSign (s.dropWhile isWhite)
  let digits := s.takeWhile Char.isDigit
  if digits = [] then .nan else toNumber negative (Nat.ofDigitChars 10 digits 0)

/-! ## Reading a URL -/

/-- Controls and blanks at both ends go, tabs and line breaks everywhere. -/
def stripUrl (s : List Char) : List Char :=
  let blank := fun c : Char => decide (c.toNat ≤ 0x20)
  ((s.dropWhile blank).reverse.dropWhile blank).reverse.filter fun c =>
    !(c == '\t' || c == '\n' || c == '\r')

def isSchemeChar (c : Char) : Bool := c.isAlphanum || c == '+' || c == '-' || c == '.'

/-- The scheme, in lower case, and what follows its colon. -/
def readScheme (s : List Char) : Option (List Char × List Char) :=
  match s.takeWhile isSchemeChar, s.dropWhile isSchemeChar with
  | c :: cs, ':' :: rest => if c.isAlpha then some ((c :: cs).map Char.toLower, rest) else none
  | _, _ => none

def endsAuthority (c : Char) : Bool := c == '/' || c == '?' || c == '#'

/-- The user information before the last `@`, if there is one, and the rest. -/
def splitUserinfo (authority : List Char) : Option (List Char) × List Char :=
  let back := authority.reverse
  let host := (back.takeWhile (· != '@')).reverse
  match back.dropWhile (· != '@') with
  | _ :: userinfo => (some userinfo.reverse, host)
  | [] => (none, host)

/-- The text before the first colon outside brackets, and the text after it. -/
def splitPort : Bool → List Char → List Char × Option (List Char)
  | _, [] => ([], none)
  | inBrackets, c :: s =>
    if c == ':' && !inBrackets then ([], some s)
    else
      let inBrackets := if c == '[' then true else if c == ']' then false else inBrackets
      let (host, port) := splitPort inBrackets s
      (c :: host, port)

/-- An address in brackets, or an opaque host. -/
def readHost (ipv6 : List Char → Option (List Char)) (s : List Char) : Option (List Char) :=
  match s with
  | '[' :: rest =>
    if rest.getLast? = some ']' then
      (ipv6 rest.dropLast).map fun address => '[' :: address ++ [']']
    else none
  | s => if s.any forbiddenInHost then none else some (percentEncode controlSet s)

/-- The port as it is written back, empty when there is none. -/
def readPort (s : List Char) : Option (List Char) :=
  if s.all Char.isDigit then
    if s = [] then some []
    else if Nat.ofDigitChars 10 s 0 ≤ 65535 then
      some (Nat.toDigits 10 (Nat.ofDigitChars 10 s 0))
    else none
  else none

def isSingleDot (segment : List Char) : Bool :=
  segment.map Char.toLower ∈ [['.'], ['%', '2', 'e']]

def isDoubleDot (segment : List Char) : Bool :=
  segment.map Char.toLower ∈ [['.', '.'], ['.', '%', '2', 'e'], ['%', '2', 'e', '.'],
    ['%', '2', 'e', '%', '2', 'e']]

/-- One segment of a path; the last one leaves an empty segment in place of dots. -/
def addSegment (path : List (List Char)) (segment : List Char) (isLast : Bool) :
    List (List Char) :=
  if isDoubleDot segment then if isLast then path.dropLast ++ [[]] else path.dropLast
  else if isSingleDot segment then if isLast then path ++ [[]] else path
  else path ++ [percentEncode pathSet segment]

def addSegments : List (List Char) → List (List Char) → List (List Char)
  | path, [] => path
  | path, [segment] => addSegment path segment true
  | path, segment :: segments => addSegments (addSegment path segment false) segments

/-- The path that begins with a slash, without its dot segments. -/
def readPath (s : List Char) : List Char :=
  match s with
  | '/' :: rest => (addSegments [] (rest.splitOn '/')).flatMap fun segment => '/' :: segment
  | _ => []

/-- What follows the two slashes of a URL with an authority. -/
def readAuthority (ipv6 : List Char → Option (List Char)) (protocol : String)
    (s : List Char) : Option Url := do
  let authority := s.takeWhile (!endsAuthority ·)
  let path := (s.dropWhile (!endsAuthority ·)).takeWhile (fun c => c != '?' && c != '#')
  let (userinfo, hostPort) := splitUserinfo authority
  if userinfo.isSome ∧ hostPort = [] then none
  let (host, port) := splitPort false hostPort
  if host = [] ∧ port.isSome then none
  let hostname ← readHost ipv6 host
  let port ← readPort (port.getD [])
  let username := (userinfo.getD []).takeWhile (· != ':')
  let password := ((userinfo.getD []).dropWhile (· != ':')).drop 1
  return {
    protocol := protocol
    username := String.ofList (percentEncode userinfoSet username)
    password := String.ofList (percentEncode userinfoSet password)
    hostname := String.ofList hostname
    port := String.ofList port
    pathname := String.ofList (readPath path) }

def specialSchemes : List (List Char) :=
  ["http", "https", "ws", "wss", "ftp", "file"].map String.toList

/-- `new URL(text)`; `none` is the error it throws. -/
def newURL (special : String → Option Url) (ipv6 : List Char → Option (List Char))
    (text : String) : Option Url := do
  let (scheme, rest) ← readScheme (stripUrl text.toList)
  if scheme ∈ specialSchemes then special text
  else
    let protocol := String.ofList scheme ++ ":"
    match rest with
    | '/' :: '/' :: rest => readAuthority ipv6 protocol rest
    | rest =>
      let path := rest.takeWhile fun c => c != '?' && c != '#'
      let pathname := if path.head? = some '/' then readPath path else percentEncode controlSet path
      return ⟨protocol, "", "", "", "", String.ofList pathname⟩

end Xnestjs.Model
