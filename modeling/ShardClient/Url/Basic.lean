/-
Absolute addresses on the web, in their normal form.

An address begins with a scheme; without one it means nothing by itself.  Reading puts it into
normal form, because that is how requests and error messages name it: the scheme in lower case,
the host as its servers know it, no default port, a path without dot segments, and characters
that may not stand in a part of an address written by their bytes.
-/
import ShardClient.Url.Host
import ShardClient.Url.Path

namespace ShardClient

/-- Who asks: a name, and possibly a password. -/
structure Credentials where
  user : List Char
  password : Option (List Char)
  deriving DecidableEq, Repr

/-- Where to ask. -/
structure Authority where
  credentials : Option Credentials
  /-- Nothing where the address names no host. -/
  host : Option UrlHost
  port : Option Nat
  deriving DecidableEq, Repr

/-- An address in normal form. -/
structure Url where
  scheme : String
  authority : Option Authority
  path : List Char
  query : Option (List Char)
  fragment : Option (List Char)
  deriving DecidableEq, Repr

/-- What is known about a scheme. -/
inductive Scheme where
  /-- Hosts are domains and backslashes are slashes.  The port is the usual one. -/
  | server (port : Nat)
  /-- Files, by their paths. -/
  | file
  | unknown
  deriving DecidableEq, Repr

namespace Scheme

/-- The scheme with the given name. -/
def ofName (name : String) : Scheme :=
  if name == "http" || name == "ws" then .server 80
  else if name == "https" || name == "wss" then .server 443
  else if name == "ftp" then .server 21
  else if name == "file" then .file
  else .unknown

/-- Whether a character separates the segments of a path. -/
def isSlash (s : Scheme) (c : Char) : Bool := c == '/' || (s != .unknown && c == '\\')

/-- Whether a character ends the part of an address that names the server. -/
def endsAuthority (s : Scheme) (c : Char) : Bool := s.isSlash c || c == '?' || c == '#'

end Scheme

/-! ### Printing -/

/-- Credentials, with the sign that separates them from the host. -/
def Credentials.text (c : Credentials) : List Char :=
  c.user ++ (match c.password with
    | some password => ':' :: password
    | none => []) ++ ['@']

/-- The part of an address that names the server. -/
def Authority.text (a : Authority) : List Char :=
  (match a.credentials with
    | some c => c.text
    | none => []) ++
  (match a.host with
    | some host => host.text
    | none => []) ++
  (match a.port with
    | some port => ':' :: Decimal.chars port
    | none => [])

/-- Credentials that are texts behind their percent signs go into a header of the request.  A name
that is none keeps them where they are, and so does such a password without a name. -/
def Credentials.areText (c : Credentials) : Bool :=
  let isText (cs : List Char) := (Utf8.decode? (Percent.decode cs)).isSome
  isText c.user && (!c.user.isEmpty || c.password.any isText)

namespace Url

/-- An address as a text.  Where no server is named, a path must not look as if it named one. -/
def text (u : Url) : String :=
  u.scheme ++ ":" ++ String.ofList (
    (match u.authority with
      | some a => '/' :: '/' :: a.text
      | none => if ['/', '/'].isPrefixOf u.path then ['/', '.'] else []) ++
    u.path ++
    (match u.query with
      | some query => '?' :: query
      | none => []) ++
    (match u.fragment with
      | some fragment => '#' :: fragment
      | none => []))

/-! ### Reading -/

/-- Characters that do not stand for themselves in a query. -/
def querySpecial (s : Scheme) : List Char :=
  [' ', '"', '#', '<', '>'] ++ (if s = .unknown then [] else ['\''])

/-- Characters that do not stand for themselves in a fragment. -/
def fragmentSpecial : List Char := [' ', '"', '<', '>', '\x60']

/-- Characters that do not stand for themselves in credentials. -/
def credentialsSpecial : List Char :=
  UrlPath.special ++ ['/', ':', ';', '=', '@', '[', '\\', ']', '^', '|']

/-- Reads what stands before the host. -/
def credentials (cs : List Char) : Option Credentials :=
  let user := cs.takeWhile (· != ':')
  let password := (cs.drop user.length).drop 1
  if user.isEmpty && password.isEmpty then none
  else some ⟨Percent.encode credentialsSpecial user,
    if password.isEmpty then none else some (Percent.encode credentialsSpecial password)⟩

/-- The length of a host.  Colons inside brackets do not end it. -/
def hostLength (inBrackets : Bool) : List Char → Nat
  | [] => 0
  | c :: cs =>
    if c == ':' && !inBrackets then 0
    else hostLength (c == '[' || (inBrackets && c != ']')) cs + 1

/-- Reads a port, and leaves out the usual one. -/
def port? (s : Scheme) (cs : List Char) : Option (Option Nat) :=
  if cs.isEmpty then some none
  else if cs.all Char.isDigit then
    let n := Radix.ofDigits 10 (cs.filterMap Decimal.digitValue?)
    if n < 65536 then some (if s = .server n then none else some n) else none
  else none

/-- Reads the part of an address that names the server, and gives what is left of it.  What stands
before the last `@` are the credentials.  A backslash ends the port. -/
def authority? (s : Scheme) (cs : List Char) : Option (Authority × List Char) := do
  let place := (cs.reverse.takeWhile (· != '@')).reverse
  let before := cs.take (cs.length - place.length - 1)
  let credentials := credentials before
  let length := hostLength false place
  let name := place.take length
  let behind := place.drop length
  if name.isEmpty then
    let isMarked := place.length < cs.length
    if s != .unknown || credentials.isSome || (isMarked && before.isEmpty) || !behind.isEmpty then
      none
    else some (⟨none, none, none⟩, [])
  else
    let host ← if s = .unknown then UrlHost.verbatim? name else UrlHost.domain? name
    let digits := (behind.drop 1).takeWhile (· != '\\')
    let port ← port? s digits
    some (⟨credentials, some host, port⟩, (behind.drop 1).drop digits.length)

/-- Reads the host of a file.  Drives are no hosts, and the local host is none. -/
def fileHost? (cs : List Char) : Option (Option UrlHost) :=
  if cs.isEmpty then some none
  else (UrlHost.domain? cs).map fun host =>
    if host == .name "localhost".toList then none else some host

/-- An address with what stands behind its path: a query behind a question mark and a fragment
behind a number sign. -/
def withTail (scheme : String) (authority : Option Authority) (path tail : List Char) : Url where
  scheme := scheme
  authority := authority
  path := path
  query :=
    match tail with
    | '?' :: rest =>
      some (Percent.encode (querySpecial (.ofName scheme)) (rest.takeWhile (· != '#')))
    | _ => none
  fragment :=
    match tail.dropWhile (· != '#') with
    | _ :: rest => some (Percent.encode fragmentSpecial rest)
    | [] => none

/-- Whether a character ends a path. -/
def endsPath (c : Char) : Bool := c == '?' || c == '#'

/-- A list without its first element, if that satisfies a test. -/
def dropFirst (p : Char → Bool) : List Char → List Char
  | c :: cs => if p c then cs else c :: cs
  | [] => []

/-- Reads the address of a server, given what stands behind the slashes. -/
def server? (scheme : String) (cs : List Char) : Option Url := do
  let s := Scheme.ofName scheme
  let named := cs.takeWhile fun c => !s.endsAuthority c
  let (authority, left) ← authority? s named
  let rest := left ++ cs.drop named.length
  let path := rest.takeWhile fun c => !endsPath c
  let normal :=
    if s = .unknown && path.isEmpty then [] else UrlPath.ofText s.isSlash (dropFirst s.isSlash path)
  some (withTail scheme (some authority) normal (rest.drop path.length))

/-- Reads the address of a file, given what stands behind the colon. -/
def file? (cs : List Char) : Option Url := do
  let s := Scheme.file
  let (host, rest) ←
    match cs with
    | a :: b :: rest =>
      if s.isSlash a && s.isSlash b then
        let named := rest.takeWhile fun c => !s.endsAuthority c
        if UrlPath.isDrive named then some (none, rest)
        else (fileHost? named).map fun host => (host, rest.drop named.length)
      else some (none, cs)
    | _ => some (none, cs)
  let path := rest.takeWhile fun c => !endsPath c
  let normal := UrlPath.ofText s.isSlash (path.dropWhile s.isSlash)
  some (withTail "file" (some ⟨none, host, none⟩)
    ('/' :: normal.dropWhile (· == '/')) (rest.drop path.length))

/-- Reads an address that names no server, given what stands behind the colon.  Without a slash at
its front the path is no list of segments. -/
def bare (scheme : String) (cs : List Char) : Url :=
  let path := cs.takeWhile fun c => !endsPath c
  let normal :=
    match path with
    | '/' :: rest => UrlPath.ofText (· == '/') rest
    | path => Percent.encode [] path
  withTail scheme none normal (cs.drop path.length)

/-- The scheme of an address, in lower case, and what stands behind its colon. -/
def scheme? (cs : List Char) : Option (String × List Char) :=
  let scheme := cs.takeWhile fun c => c.isAlphanum || c == '+' || c == '-' || c == '.'
  match scheme, cs.drop scheme.length with
  | first :: _, ':' :: rest =>
    if first.isAlpha then some (String.ofList (scheme.map Char.toLower), rest) else none
  | _, _ => none

/-- Reads an address.  White space at its ends, and line breaks and tabs anywhere, do not
count. -/
def read? (s : String) : Option Url :=
  let cs := s.toList.filter fun c => c != '\t' && c != '\n' && c != '\r'
  let cs := cs.dropWhile (·.toNat ≤ 0x20)
  let cs := (cs.reverse.dropWhile (·.toNat ≤ 0x20)).reverse
  (scheme? cs).bind fun (scheme, rest) =>
    match Scheme.ofName scheme, rest with
    | .server port, rest => server? scheme (rest.dropWhile (Scheme.server port).isSlash)
    | .file, rest => file? rest
    | .unknown, '/' :: '/' :: rest => server? scheme rest
    | .unknown, rest => some (bare scheme rest)

/-! ### Requests -/

/-- The address that a request is made to. -/
def forRequest (u : Url) : Url :=
  { u with authority := u.authority.map fun a =>
      { a with credentials := a.credentials.filter fun c => !c.areText } }

/-- The greatest length of the address of a request. -/
def longest : Nat := 65534

/-- Whether a request can be made to an address: over HTTP, to a host with a name that HTTP can
carry. -/
def isAskable (u : Url) : Bool :=
  let hasPlainHost (a : Authority) :=
    a.host.any fun host => !host.text.any ['"', '\x60', '\x7b', '\x7d'].contains
  (u.scheme == "http" || u.scheme == "https") && u.authority.any hasPlainHost &&
    u.text.length ≤ longest

end Url

end ShardClient
