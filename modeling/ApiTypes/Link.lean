/-
  Links: what a text leads to, seen from a page.

  * `Link.read?` takes a text apart into scheme, authority, path, parameters, question
    and fragment. A scheme is a letter with letters, digits, `+`, `-` and `.` before a
    colon, the authority is what follows two slashes up to the next `/`, `?` or `#`,
    parameters follow a semicolon in the last segment of the path;
  * `isWebAddress` says whether a text is an address that can be fetched;
  * `Link.resolve?` reads a text as it is meant on the page of an address.

  An authority with unbalanced brackets, with something else than an address of the sixth
  version between them, or with a character that is equivalent to a separator, is no
  authority, and a text with it no link.
-/
import ApiTypes.Failure
import ApiTypes.Link.NumericHost
import ApiTypes.Text.Case

namespace ApiTypes

/-- A text taken apart. A part that is not there is empty. -/
structure Link where
  scheme : String
  authority : String
  path : String
  parameters : String
  question : String
  fragment : String
  deriving DecidableEq, Repr

namespace Link

/-! ## Authorities -/

/-- The characters whose compatible form holds one of `/`, `?`, `#`, `@` and `:`. -/
def separatorLikes : List Nat :=
  [0x2047, 0x2048, 0x2049, 0x2100, 0x2101, 0x2105, 0x2106, 0x2a74, 0xfe13, 0xfe16, 0xfe55, 0xfe56,
   0xfe5f, 0xfe6b, 0xff03, 0xff0f, 0xff1a, 0xff1f, 0xff20]

/-- Whether the brackets behind the user of an authority stand around a whole host. Without
brackets there, the host up to its port is judged as if it stood in them. -/
def bracketsHost (authority : List Char) : Bool :=
  let server := (authority.reverse.takeWhile (· != '@')).reverse
  let before := server.takeWhile (· != '[')
  match server.drop before.length with
  | [] => NumericHost.isBracketed (server.takeWhile (· != ':'))
  | _ :: inside =>
    let behind := (inside.dropWhile (· != ']')).drop 1
    before.isEmpty && NumericHost.isBracketed (inside.takeWhile (· != ']')) &&
      (behind.isEmpty || behind.head? == some ':')

/-- Whether a text can be an authority. -/
def isAuthority (authority : List Char) : Bool :=
  ('[' ∈ authority ↔ ']' ∈ authority) && ('[' ∉ authority || bracketsHost authority) &&
    !authority.any fun c => separatorLikes.contains c.toNat

/-! ## Schemes -/

/-- A character of a scheme. -/
def isSchemeChar (c : Char) : Bool := c.isAlphanum || c == '+' || c == '-' || c == '.'

/-- The scheme in front of a colon, in lower case, and what follows the colon. -/
def splitScheme? (text : List Char) : Option (String × List Char) :=
  let before := text.takeWhile (· != ':')
  match before, text.drop before.length with
  | c :: _, _ :: after =>
    if c.isAlpha && before.all isSchemeChar then
      some (String.ofList (before.map Char.toLower), after)
    else none
  | _, _ => none

/-- The schemes whose links can be relative, all of them with authorities. -/
def relativeSchemes : List String :=
  ["", "ftp", "http", "gopher", "nntp", "imap", "wais", "file", "https", "shttp", "mms",
   "prospero", "rtsp", "rtsps", "rtspu", "sftp", "svn", "svn+ssh", "ws", "wss"]

/-- The schemes whose links have parameters. -/
def parameterSchemes : List String :=
  ["", "ftp", "hdl", "prospero", "http", "imap", "https", "shttp", "rtsp", "rtsps", "rtspu", "sip",
   "sips", "mms", "sftp", "tel"]

/-! ## Reading -/

/-- Cuts a text at the first separator, which is dropped. -/
def cutAt (sep : Char) (text : List Char) : List Char × List Char :=
  (text.takeWhile (· != sep), (text.dropWhile (· != sep)).drop 1)

/-- Cuts a path at the first semicolon of its last segment. -/
def cutParameters (path : List Char) : List Char × List Char :=
  let segment := (path.reverse.takeWhile (· != '/')).reverse
  let (last, parameters) := cutAt ';' segment
  (path.take (path.length - segment.length) ++ last, parameters)

/-- A character that ends an authority. -/
def endsAuthority (c : Char) : Bool := c == '/' || c == '?' || c == '#'

/-- Reads a text; without a scheme it has the one given. Controls and spaces in front are
dropped, and tabs and line ends anywhere. -/
def read? (scheme source : String) : Option Link :=
  let text := (source.toList.dropWhile fun c => c.toNat ≤ 32).filter fun c =>
    c != '\t' && c != '\r' && c != '\n'
  let (scheme, text) := (splitScheme? text).getD (scheme, text)
  let (authority, text) := match text with
    | '/' :: '/' :: text =>
      (text.takeWhile (!endsAuthority ·), text.dropWhile (!endsAuthority ·))
    | text => ([], text)
  let (text, fragment) := cutAt '#' text
  let (path, question) := cutAt '?' text
  let (path, parameters) :=
    if scheme ∈ parameterSchemes then cutParameters path else (path, [])
  if isAuthority authority then
    some ⟨scheme, String.ofList authority, String.ofList path, String.ofList parameters,
      String.ofList question, String.ofList fragment⟩
  else none

/-! ## Writing -/

/-- The text of a link; empty parts are left out. -/
def text (l : Link) : String :=
  let part (mark part : String) := if part = "" then "" else mark ++ part
  let path := l.path ++ part ";" l.parameters
  let isRooted := path = "" ∨ path.toList.head? = some '/'
  let announced := l.authority ≠ "" ∨ (l.scheme ≠ "" ∧ l.scheme ∈ relativeSchemes) ∨
    path.toList.take 2 = ['/', '/']
  (if l.scheme = "" then "" else l.scheme ++ ":") ++
    (if announced then "//" ++ l.authority ++ (if isRooted then path else "/" ++ path) else path) ++
    part "?" l.question ++ part "#" l.fragment

/-! ## Resolving -/

/-- The segments of a path without points: one point is dropped, two points drop the
segment before them. `passed` is kept last first. -/
def walk (passed : List String) : List String → List String
  | [] => passed.reverse
  | "." :: rest => walk passed rest
  | ".." :: rest => walk (passed.drop 1) rest
  | segment :: rest => walk (segment :: passed) rest

/-- Drops what is empty between the first and the last segment. -/
def dropEmpty (segments : List String) : List String :=
  segments.take 1 ++ ((segments.drop 1).dropLast.filter (· ≠ "")) ++
    ((segments.drop 1).getLast?).toList

/-- The path that a path means, seen from another one: from the root, or from the segments
before the last one of the other. A last segment of points leads to a directory. -/
def resolvePath (base path : String) : String :=
  let segments :=
    if path.toList.head? = some '/' then Text.split '/' path
    else
      let above := Text.split '/' base
      dropEmpty ((if above.getLast? = some "" then above else above.dropLast) ++
        Text.split '/' path)
  let isDirectory := segments.getLast? = some "." ∨ segments.getLast? = some ".."
  let resolved := Text.join "/" (walk [] segments ++ if isDirectory then [""] else [])
  if resolved = "" then "/" else resolved

/-- The text that a text means on the page of an address; one that is no link has no
meaning. -/
def resolve? (base reference : String) : Option String :=
  if base = "" then some reference
  else if reference = "" then some base
  else do
    let page ← read? "" base
    let link ← read? page.scheme reference
    if link.scheme ≠ page.scheme ∨ link.scheme ∉ relativeSchemes then return reference
    else if link.authority ≠ "" then return link.text
    else if link.path = "" ∧ link.parameters = "" then
      return { page with
        question := if link.question = "" then page.question else link.question
        fragment := link.fragment }.text
    else
      return { link with
        authority := page.authority, path := resolvePath page.path link.path }.text

end Link

/-- Whether a source is an address that can be fetched: its scheme is one of the web,
and it has an authority. -/
def isWebAddress (source : String) : Except Failure Bool :=
  match Link.read? "" source with
  | none => .error .malformed
  | some l => .ok ((l.scheme = "http" ∨ l.scheme = "https") ∧ l.authority ≠ "")

end ApiTypes
