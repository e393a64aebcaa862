/-
  Addresses in the form in which they are asked for.

  * `Address.parse` reads an address: its scheme and its host are brought to lower case,
    a host of any script to ASCII, the port is left out where the scheme implies it,
    points in the path are followed, and what may not stand in a part is escaped;
  * `Address.text` writes it. Replies are found by this text;
  * `AddressFault` says why a text is no address.
-/
import ApiTypes.Link
import ApiTypes.Text.Integer
import ApiTypes.Text.Percent
import ApiTypes.Text.Quoted
import ApiTypes.Text.Utf8
import ApiTypes.Web.HostName

namespace ApiTypes

/-! ## Faults -/

/-- Why a text is no address. -/
inductive AddressFault where
  | tooLong
  | control (c : Char) (position : Nat)
  | badPort (port : String)
  | badFourth (host : String)
  | badSixth (host : String)
  | badName (host : String)
  | openPath
  | doubleSlash
  | firstColon
  deriving DecidableEq, Repr

/-- The wording of a fault. -/
def AddressFault.message : AddressFault → String
  | tooLong => "URL too long"
  | control c position =>
    "Invalid non-printable ASCII character in URL, " ++ Text.quoted (String.singleton c) ++
      " at position " ++ toString position ++ "."
  | badPort port => "Invalid port: " ++ Text.quoted port
  | badFourth host => "Invalid IPv4 address: " ++ Text.quoted host
  | badSixth host => "Invalid IPv6 address: " ++ Text.quoted host
  | badName host => "Invalid IDNA hostname: " ++ Text.quoted host
  | openPath => "For absolute URLs, path must be empty or begin with '/'"
  | doubleSlash => "Relative URLs cannot have a path starting with '//'"
  | firstColon => "Relative URLs cannot have a path starting with ':'"

/-! ## Parts as they are written -/

/-- The parts of an address as they are written. The question and the fragment may be
there and empty. -/
structure WrittenAddress where
  scheme : String
  user : String
  host : String
  port : Option String
  path : String
  question : Option String
  fragment : Option String
  deriving DecidableEq, Repr

namespace WrittenAddress

/-- The scheme before a colon, which may be empty, and what follows the colon. -/
def cutScheme (text : List Char) : List Char × List Char :=
  let scheme := text.takeWhile Link.isSchemeChar
  match text.drop scheme.length with
  | ':' :: rest => if scheme.head?.all Char.isAlpha then (scheme, rest) else ([], text)
  | _ => ([], text)

/-- The user before the last at sign, the host, and the port. A host that starts with a
bracket goes up to the last closing one; otherwise it ends before a colon. -/
def cutAuthority (authority : List Char) : List Char × List Char × Option String :=
  let server := (authority.reverse.takeWhile (· != '@')).reverse
  let user := authority.take (authority.length - server.length - 1)
  let behind := (server.reverse.takeWhile (· != ']')).reverse
  let host :=
    if server.head? = some '[' ∧ ']' ∈ server then server.take (server.length - behind.length)
    else server.takeWhile (· != ':')
  let port := match server.drop host.length with
    | ':' :: port => port
    | port => port
  (user, host, if port = [] then none else some (String.ofList port))

/-- Takes a text apart. -/
def read (text : List Char) : WrittenAddress :=
  let (scheme, text) := cutScheme text
  let (authority, text) := match text with
    | '/' :: '/' :: text =>
      (text.takeWhile (!Link.endsAuthority ·), text.dropWhile (!Link.endsAuthority ·))
    | text => ([], text)
  let (user, host, port) := cutAuthority authority
  let path := text.takeWhile fun c => c != '?' && c != '#'
  let (question, text) := match text.drop path.length with
    | '?' :: text => (some (String.ofList (text.takeWhile (· != '#'))), text.dropWhile (· != '#'))
    | text => (none, text)
  let fragment := match text with
    | '#' :: fragment => some (String.ofList fragment)
    | _ => none
  ⟨String.ofList scheme, String.ofList user, String.ofList host, port, String.ofList path, question,
    fragment⟩

end WrittenAddress

/-! ## Addresses -/

/-- An address: the parts of its text, each in its one form. A host that is an address of
the sixth version stands without brackets. -/
structure Address where
  scheme : String
  user : String
  host : String
  port : Option Int
  path : String
  question : Option String
  fragment : Option String
  deriving DecidableEq, Repr

namespace Address

/-- The host between brackets if it has a colon. -/
def bracketed (host : String) : String := if ':' ∈ host.toList then "[" ++ host ++ "]" else host

/-- The user, the host and the port of an address. -/
def authority (a : Address) : String :=
  (if a.user = "" then "" else a.user ++ "@") ++ bracketed a.host ++
    ((a.port.map fun port => ":" ++ toString port).getD "")

/-- The text of an address. -/
def text (a : Address) : String :=
  (if a.scheme = "" then "" else a.scheme ++ ":") ++
    (if a.authority = "" then "" else "//" ++ a.authority) ++ a.path ++
    ((a.question.map fun question => "?" ++ question).getD "") ++
    ((a.fragment.map fun fragment => "#" ++ fragment).getD "")

/-- Whether an address says from where on the web it is asked for. -/
def isAbsolute (a : Address) : Bool := a.scheme ≠ "" && a.host ≠ ""

/-! ## Characters of the parts -/

/-- A visible ASCII character that is not excluded. -/
def isSafe (excluded : String) (c : Char) : Bool :=
  32 < c.toNat && c.toNat < 127 && c ∉ excluded.toList

/-- What may not stand in each part. A percent sign may stand in all of them. -/
def outsideFragment : String := "\"<>`"
def outsideQuestion : String := "\"#<>"
def outsidePath : String := outsideQuestion ++ "?`\x7b\x7d"
def outsideUser : String := outsidePath ++ "/;=@[\\]^|"
def outsideHost : String := "#/:<>?@[]^"

/-- The text with escapes for what may not stand in a part. -/
def escape (excluded text : String) : String :=
  String.ofList (Text.percentEscape (isSafe excluded) text.toList)

/-! ## Settling the parts -/

/-- The host in its one form. -/
def settleHost (host : String) : Except AddressFault String :=
  let cs := host.toList
  if NumericHost.looksLikeFourthVersion cs then
    if NumericHost.isFourthVersion cs then .ok host else .error (.badFourth host)
  else if cs.head? = some '[' ∧ 1 < cs.length ∧ cs.getLast? = some ']' then
    let inside := (cs.drop 1).dropLast
    if NumericHost.isSixthVersion inside then .ok (String.ofList inside)
    else .error (.badSixth host)
  else if cs.all HostName.isAscii then .ok (escape outsideHost (Text.lower host))
  else
    match HostName.toAscii? (Text.lower host) with
    | some ascii => .ok ascii
    | none => .error (.badName host)

/-- The ports that schemes imply. -/
def impliedPorts : List (String × Int) :=
  [("ftp", 21), ("http", 80), ("https", 443), ("ws", 80), ("wss", 443)]

/-- The port, unless the scheme implies it. -/
def settlePort (scheme : String) (port : Option String) : Except AddressFault (Option Int) :=
  match port with
  | none => .ok none
  | some port =>
    match Text.integer? port with
    | none => .error (.badPort port)
    | some n => .ok (if impliedPorts.lookup scheme = some n then none else some n)

/-- Whether a path can follow what is before it. -/
def checkPath (path : List Char) (hasScheme hasAuthority : Bool) : Except AddressFault Unit :=
  match path, hasAuthority, hasScheme with
  | c :: _, true, _ => if c = '/' then .ok () else .error .openPath
  | '/' :: '/' :: _, false, false => .error .doubleSlash
  | ':' :: _, false, false => .error .firstColon
  | _, _, _ => .ok ()

/-- Follows the points in the segments of a path: one point is dropped, two points drop
the segment before them, but not the root. `passed` is kept last first. -/
def follow (passed : List String) : List String → List String
  | [] => passed.reverse
  | "." :: rest => follow passed rest
  | ".." :: rest => follow (if passed = [""] then passed else passed.drop 1) rest
  | segment :: rest => follow (segment :: passed) rest

/-- The path with its points followed. -/
def followPath (path : String) : String := Text.join "/" (follow [] (Text.split '/' path))

/-- The address of written parts. -/
def settle (w : WrittenAddress) : Except AddressFault Address := do
  let user := escape outsideUser w.user
  let host ← settleHost w.host
  let port ← settlePort w.scheme w.port
  let hasScheme := w.scheme ≠ ""
  let hasAuthority := user ≠ "" ∨ host ≠ "" ∨ port.isSome
  checkPath w.path.toList hasScheme hasAuthority
  let path := if hasScheme ∨ hasAuthority then followPath w.path else w.path
  return {
    scheme := Text.lower w.scheme, user, host, port
    path := escape outsidePath path
    question := w.question.map (escape outsideQuestion)
    fragment := w.fragment.map (escape outsideFragment) }

/-! ## Reading -/

/-- The most characters of an address. -/
def longest : Nat := 65536

/-- An ASCII character that controls. -/
def isControl (c : Char) : Bool := c.toNat < 32 || c.toNat == 127

/-- Refuses a text that is too long or has controls. -/
def checkText (text : List Char) : Except AddressFault Unit :=
  if longest < text.length then .error .tooLong
  else
    match text.findIdx? isControl with
    | some i => .error (.control (text.getD i ' ') i)
    | none => .ok ()

/-- Reads an address. -/
def parse (text : String) : Except AddressFault Address := do
  checkText text.toList
  settle (WrittenAddress.read text.toList)

/-- The address with parts changed: its parts are checked and settled again. -/
def change (a : Address) (f : WrittenAddress → WrittenAddress) : Except AddressFault Address := do
  let w := f {
    scheme := a.scheme, user := a.user, host := bracketed a.host, port := a.port.map toString
    path := a.path, question := a.question, fragment := a.fragment }
  [w.scheme, a.authority, w.host, w.path, w.question.getD "", w.fragment.getD ""].forM fun part =>
    checkText part.toList
  settle w

/-! ## Parts -/

/-- The host in its own script, unless it cannot be read. -/
def hostName? (a : Address) : Option String :=
  if HostName.asciiMark.isPrefixOf a.host.toList then HostName.ofAscii? a.host else some a.host

/-- The fragment without escapes. -/
def openFragment (a : Address) : String :=
  String.ofList (Text.decodeFrom none (Text.percentBytes (a.fragment.getD "").toList))

/-- The address with another host. -/
def withHost (a : Address) (host : String) : Except AddressFault Address :=
  a.change fun w => { w with host := bracketed host }

/-- The address with another fragment. -/
def withFragment (a : Address) (fragment : String) : Except AddressFault Address :=
  a.change fun w => { w with fragment := some fragment }

/-- The path and the question of an address, seen from nowhere: without scheme, authority
and fragment, and with one slash in front. -/
def seenFromNowhere (a : Address) : Except AddressFault Address :=
  a.change fun w => {
    scheme := "", user := "", host := "", port := none
    path := "/" ++ String.ofList (w.path.toList.dropWhile (· == '/'))
    question := w.question, fragment := none }

end Address

end ApiTypes
