/-
  A client for a table of pages.

  A web is a table by address of pages with their statuses, and of connections that fail.
  `Web.client` asks for an address and, if that is wanted, follows the places that pages
  point to. It is one client of many: nothing about loading is particular to it.
-/
import ApiTypes.Client
import ApiTypes.Text.CodePoints
import ApiTypes.Web.Address
import ApiTypes.Web.ContentType

namespace ApiTypes

/-! ## Pages -/

/-- A page: its status, its content with its type, and the place it points to. -/
structure Page where
  status : Nat
  content : ByteArray
  contentType : Option String
  place : Option String

/-- The character set of a page: the one that its content type names, or UTF-8 if it names
none that is known. -/
def Page.charset? (p : Page) : Option Charset :=
  match (p.contentType.map ContentType.charset).getD .nothing with
  | .nothing => some .utf8
  | .name name => some ((Charset.find? name).getD .utf8)
  | .unreadable => none

/-- The text of a page, if it can be read; an empty page can. -/
def Page.text? (p : Page) : Option String :=
  if p.content.isEmpty then some ""
  else do return String.ofList (← (← p.charset?).read p.content.toList)

/-- What is at an address: a page, or a connection that fails, with words for it. -/
inductive Spot where
  | page (p : Page)
  | failed (words : String)

/-- What is at each address. -/
abbrev Web := List (String × Spot)

/-- The words that belong to the known statuses. -/
def statusWords : List (Nat × String) :=
  [(100, "Continue"), (101, "Switching Protocols"), (102, "Processing"), (103, "Early Hints"),
   (200, "OK"), (201, "Created"), (202, "Accepted"), (203, "Non-Authoritative Information"),
   (204, "No Content"), (205, "Reset Content"), (206, "Partial Content"), (207, "Multi-Status"),
   (208, "Already Reported"), (226, "IM Used"), (300, "Multiple Choices"),
   (301, "Moved Permanently"), (302, "Found"), (303, "See Other"), (304, "Not Modified"),
   (305, "Use Proxy"), (307, "Temporary Redirect"), (308, "Permanent Redirect"),
   (400, "Bad Request"), (401, "Unauthorized"), (402, "Payment Required"), (403, "Forbidden"),
   (404, "Not Found"), (405, "Method Not Allowed"), (406, "Not Acceptable"),
   (407, "Proxy Authentication Required"), (408, "Request Timeout"), (409, "Conflict"),
   (410, "Gone"), (411, "Length Required"), (412, "Precondition Failed"),
   (413, "Request Entity Too Large"), (414, "Request-URI Too Long"),
   (415, "Unsupported Media Type"), (416, "Requested Range Not Satisfiable"),
   (417, "Expectation Failed"), (418, "I'm a teapot"), (421, "Misdirected Request"),
   (422, "Unprocessable Entity"), (423, "Locked"), (424, "Failed Dependency"),
   (425, "Too Early"), (426, "Upgrade Required"), (428, "Precondition Required"),
   (429, "Too Many Requests"), (431, "Request Header Fields Too Large"),
   (451, "Unavailable For Legal Reasons"), (500, "Internal Server Error"),
   (501, "Not Implemented"), (502, "Bad Gateway"), (503, "Service Unavailable"),
   (504, "Gateway Timeout"), (505, "HTTP Version Not Supported"),
   (506, "Variant Also Negotiates"), (507, "Insufficient Storage"), (508, "Loop Detected"),
   (510, "Not Extended"), (511, "Network Authentication Required")]

/-- The words for a status; an unknown one has none. -/
def reason (status : Nat) : String := (statusWords.lookup status).getD ""

/-! ## Fetching -/

/-- Why there is no page: nothing answers, for the reason given, or what would have to be
asked for or read is no address or no text. -/
inductive FetchFault where
  | unreachable (words : String)
  | malformed
  deriving DecidableEq, Repr

/-- The address that a source asks for. One that says not from where on the web is asked
for by its path. -/
def Address.ofSource (source : String) : Except AddressFault Address := do
  let a ← parse source
  if a.isAbsolute then return a else a.seenFromNowhere

/-- Whether an address can be asked for: its host can be read, and is written in ASCII. -/
def Address.isSendable (a : Address) : Bool :=
  a.hostName?.isSome && a.host.toList.all HostName.isAscii

/-- Whether an address says how it is asked for: it starts with a name and a colon. -/
def Address.hasKind (a : Address) : Bool :=
  let text := a.text.toList
  let name := text.takeWhile fun c => c != '/' && c != ':'
  name != [] && (text.drop name.length).head? == some ':'

/-- Whether what is said about a page is ASCII. -/
def Page.isPlain (p : Page) : Bool :=
  (p.contentType.toList ++ p.place.toList).all (·.toList.all HostName.isAscii)

/-- The page at an address; one that is not in the table is not reached. -/
def Web.page (web : Web) (a : Address) : Except FetchFault Page :=
  if !a.isSendable then .error .malformed
  else
    match web.lookup a.text with
    | none => .error (.unreachable "no route")
    | some (.failed words) => .error (.unreachable words)
    | some (.page p) => if p.isPlain && a.hasKind then .ok p else .error .malformed

/-- The place that a page points to, if it does. -/
def Page.redirect? (p : Page) : Option String :=
  if p.status ∈ [301, 302, 303, 307, 308] then p.place else none

/-- The address of a place to which the page of another address points. A place with a
scheme and without a host is on the same host, one without a scheme is seen from the other
address, and one without a fragment keeps the fragment. -/
def Address.redirected (a : Address) (place : String) : Except FetchFault Address := do
  let usable {α : Type} : Except AddressFault α → Except FetchFault α :=
    Except.mapError fun _ => .malformed
  let named ← (parse place).mapError fun fault =>
    .unreachable ("Invalid URL in location header: " ++ fault.message ++ ".")
  let hosted ← match named.hostName?, a.hostName? with
    | some name, some host =>
      if named.scheme ≠ "" ∧ name = "" then usable (named.withHost host) else pure named
    | _, _ => throw .malformed
  let seen ←
    if hosted.isAbsolute then pure hosted
    else
      match Link.resolve? a.text hosted.text with
      | some text => usable (parse text)
      | none => throw .malformed
  let next ←
    if a.openFragment ≠ "" ∧ seen.openFragment = "" then usable (seen.withFragment a.openFragment)
    else pure seen
  if next.isSendable then return next else throw .malformed

/-- The page at an address, and the address that it points to. -/
def Web.visit (web : Web) (a : Address) : Except FetchFault (Page × Option Address) := do
  let p ← web.page a
  match p.redirect? with
  | none => return (p, none)
  | some place => return (p, some (← a.redirected place))

/-- The page at an address, after at most so many redirects. -/
def Web.followFrom (web : Web) (a : Address) : (redirects : Nat) → Except FetchFault Page
  | 0 => do
    match ← web.visit a with
    | (p, none) => return p
    | (_, some _) => throw (.unreachable "Exceeded maximum allowed redirects.")
  | redirects + 1 => do
    match ← web.visit a with
    | (p, none) => return p
    | (_, some next) => web.followFrom next redirects

/-- The greatest number of redirects that are followed. -/
def mostRedirects : Nat := 20

/-- The page of a source. -/
def Web.fetch (web : Web) (follow : Bool) (source : String) : Except FetchFault Page := do
  match Text.chars? source with
  | none => throw .malformed
  | some cs =>
    let a ← (Address.ofSource (String.ofList cs)).mapError fun _ => .malformed
    if follow then web.followFrom a mostRedirects else return (← web.visit a).1

/-- The client that answers with the pages of a web. -/
def Web.client (web : Web) (follow : Bool) : Client := fun source =>
  match web.fetch follow source with
  | .error (.unreachable words) => .failed words
  | .error .malformed => .broken
  | .ok p => .response ⟨p.status, reason p.status, p.text?⟩

end ApiTypes
