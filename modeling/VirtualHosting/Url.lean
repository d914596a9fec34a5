/-
# Url — locating a resource by one text

A URL names a scheme and, for most, a host with a path below it. It is read as
browsers read it: blanks around it and line breaks inside it do not count, the
schemes of the web take a backslash for a slash, and whatever must not stand where
it does is percent-encoded rather than refused.
-/
import VirtualHosting.Url.HostName
import VirtualHosting.Url.Path

namespace VirtualHosting

set_option autoImplicit false

/-- A URL. Everything but the host is in the form it is written in. -/
structure Url where
  scheme : String
  user : String := ""
  password : String := ""
  host : Option Url.HostName := none
  /-- The port, unless it is the usual one of the scheme. -/
  port : Option Nat := none
  path : String := ""
  query : Option String := none
  fragment : Option String := none
  deriving DecidableEq, Repr

namespace Url

/-- The host as it is written, or nothing. -/
def hostText (u : Url) : String :=
  (u.host.map HostName.text).getD ""

/-! ## Schemes -/

/-- What a scheme says about the rest of the URL. -/
inductive SchemeKind where
  /-- A scheme of the web, with its usual port. -/
  | web (port : Nat)
  | file
  | other
  deriving DecidableEq, Repr

def kindOf (scheme : List Char) : SchemeKind :=
  match String.ofList scheme with
  | "http" | "ws" => .web 80
  | "https" | "wss" => .web 443
  | "ftp" => .web 21
  | "file" => .file
  | _ => .other

def SchemeKind.isCommon (kind : SchemeKind) : Bool :=
  kind != .other

/-- Whether a character separates segments. -/
def SchemeKind.separates (kind : SchemeKind) (c : Char) : Bool :=
  c = '/' || (c = '\\' && kind.isCommon)

/-- The scheme of a text, in lower case: what is in front of its first colon. -/
def scheme? (cs : List Char) : Option (List Char) :=
  let scheme := cs.takeWhile fun c => c.isAlphanum || c ∈ ['+', '-', '.']
  match cs.head?, cs.drop scheme.length with
  | some first, ':' :: _ => if first.isAlpha then some (scheme.map Text.lower) else none
  | _, _ => none

/-! ## Parts -/

/-- The text without blanks and controls around it. -/
def trimmed (input : String) : List Char :=
  let isEdge := fun (c : Char) => c.toNat ≤ 0x20
  ((input.toList.dropWhile isEdge).reverse.dropWhile isEdge).reverse

/-- The text before the first `c`, and what follows it. -/
def cutAt (c : Char) (cs : List Char) : List Char × Option (List Char) :=
  let before := cs.takeWhile (· != c)
  match cs.drop before.length with
  | [] => (before, none)
  | _ :: rest => (before, some rest)

/-- The text before the last `c` and the text after it. -/
def cutAtLast? (c : Char) (cs : List Char) : Option (List Char × List Char) :=
  if c ∈ cs then
    let after := (cs.reverse.takeWhile (· != c)).reverse
    some (cs.take (cs.length - after.length - 1), after)
  else none

/-- The host in front of its port: up to the first colon outside brackets. -/
def hostPart (cs : List Char) : List Char :=
  go false cs
where
  go (inside : Bool) : List Char → List Char
    | [] => []
    | ':' :: rest => if inside then ':' :: go inside rest else []
    | '[' :: rest => '[' :: go true rest
    | ']' :: rest => ']' :: go false rest
    | c :: rest => c :: go inside rest

/-- Reads what follows a host: a port, and what is left of the authority after it.
The usual port and an empty one are left out. -/
def readPort (kind : SchemeKind) (cs : List Char) : Except Fault (Option Nat × List Char) :=
  match cs with
  | ':' :: rest =>
    let digits := rest.takeWhile Char.isDigit
    let port := Text.Hex.ofDigits 10 digits
    let rest := rest.drop digits.length
    if port > 65535 || (rest.head?.map (· != '\\')).getD false then .error .invalidPort
    else if digits.isEmpty || kind = .web port then .ok (none, rest)
    else .ok (some port, rest)
  | _ => .ok (none, cs)

/-! ## Reading -/

/-- Reads an authority. `follows` says whether anything comes after it. Also
answers what is left of the authority after a port. -/
def readAuthority (u : Url) (kind : SchemeKind) (authority : List Char) (follows : Bool) :
    Except Fault (Url × List Char) := do
  let (login, place) := (cutAtLast? '@' authority).getD ([], authority)
  if '@' ∈ authority && login.isEmpty && place.isEmpty && follows then throw .emptyHost
  let (user, password) := cutAt ':' login
  let password := password.getD []
  let name := hostPart place
  let behind := place.drop name.length
  let host ← if kind.isCommon then HostName.parse name else HostName.parseOther name
  if name.isEmpty && (!behind.isEmpty || !user.isEmpty || !password.isEmpty) then throw .emptyHost
  let (port, rest) ← readPort kind behind
  return ({ u with
    user := String.ofList (encode inUserSet user)
    password := String.ofList (encode inUserSet password)
    host := some host
    port }, rest)

/-- The path that starts a text, for a URL with an authority that is no file's. -/
def pathAfterAuthority (kind : SchemeKind) (cs : List Char) : List Char :=
  match cs with
  | [] => if kind.isCommon then ['/'] else []
  | c :: rest =>
    let behind := if kind.separates c then rest else c :: rest
    Path.written (Path.walk false kind.isCommon behind).segments

/-- Reads what follows the two slashes before an authority. -/
def readBehindSlashes (u : Url) (kind : SchemeKind) (cs : List Char) (follows : Bool) :
    Except Fault Url := do
  let authority := cs.takeWhile (!kind.separates ·)
  let behind := cs.drop authority.length
  let (u, rest) ← readAuthority u kind authority (follows || !behind.isEmpty)
  return { u with path := String.ofList (pathAfterAuthority kind (rest ++ behind)) }

/-- The host of a file on this machine. -/
def thisMachine : HostName :=
  .named ""

/-- The URL of a file at a host and a path, the text of which is given behind its
first slash. On a drive no host is named, and slashes in front are one. -/
def locateFile (u : Url) (host : HostName) (cs : List Char) : Url :=
  let found := Path.walk true true cs
  { u with
    host := some (if found.onDrive then thisMachine else host)
    path := String.ofList (Path.written (found.segments.dropWhile List.isEmpty)) }

/-- Reads the host of a file's URL and the path below it. Where no host is named, or
this machine, the path counts the slash in front of it. -/
def readFileHost (u : Url) (cs : List Char) : Except Fault Url :=
  let part := cs.takeWhile (!SchemeKind.file.separates ·)
  let name := Path.unbroken part
  let behind := cs.drop part.length
  if (Path.drive? name).isSome then .ok (locateFile u thisMachine cs)
  else if name.isEmpty then .ok (locateFile u thisMachine behind)
  else do
    let host ← HostName.parse name
    return if host = .named "localhost" then locateFile u thisMachine behind
      else locateFile u host (behind.drop 1)

/-- What follows the slash that a text starts with. -/
def behindSlash? (cs : List Char) : Option (List Char) :=
  match cs.dropWhile Path.isBreak with
  | [] => none
  | c :: rest => if SchemeKind.file.separates c then some rest else none

/-- Reads a file's URL behind its scheme, tabs and line ends in it. -/
def readFile (u : Url) (cs : List Char) : Except Fault Url :=
  match behindSlash? cs with
  | none => .ok (locateFile u thisMachine cs)
  | some rest =>
    match behindSlash? rest with
    | none => .ok (locateFile u thisMachine rest)
    | some behind => readFileHost u behind

/-- Reads what is behind the scheme, up to the query. -/
def readMain (u : Url) (kind : SchemeKind) (cs : List Char) (follows : Bool) :
    Except Fault Url :=
  match kind, Path.unbroken cs with
  | .file, _ => readFile u cs
  | .web _, rest => readBehindSlashes u kind (rest.dropWhile kind.separates) follows
  | .other, '/' :: '/' :: rest => readBehindSlashes u kind rest follows
  | .other, '/' :: rest =>
    .ok { u with path := String.ofList (Path.written (Path.walk false false rest).segments) }
  | .other, rest => .ok { u with path := String.ofList (encode isControl rest) }

/-- Reads a URL. Tabs and line ends inside it are read past. -/
def parse (input : String) : Except Fault Url :=
  match scheme? (Path.unbroken (trimmed input)) with
  | none => .error .relative
  | some scheme =>
    let kind := kindOf scheme
    let rest := ((trimmed input).dropWhile (· != ':')).drop 1
    let (rest, fragment) := cutAt '#' rest
    let (main, query) := cutAt '?' rest
    let shown (set : Char → Bool) (cs : List Char) := String.ofList (encode set (Path.unbroken cs))
    let start : Url :=
      { scheme := String.ofList scheme
        query := query.map (shown (inQuerySet kind.isCommon))
        fragment := fragment.map (shown inFragmentSet) }
    readMain start kind main (query.isSome || fragment.isSome)

/-! ## Writing -/

/-- The login as it is written in front of the host. -/
def loginText (u : Url) : String :=
  if u.user = "" && u.password = "" then ""
  else u.user ++ (if u.password = "" then "" else ":" ++ u.password) ++ "@"

/-- A URL as it is written. -/
def text (u : Url) : String :=
  let authority :=
    match u.host with
    | some host =>
      "//" ++ u.loginText ++ host.text ++ ((u.port.map fun p => ":" ++ toString p).getD "")
    | none => if Text.startsWith "//" u.path then "/." else ""
  u.scheme ++ ":" ++ authority ++ u.path ++ ((u.query.map ("?" ++ ·)).getD "")
    ++ ((u.fragment.map ("#" ++ ·)).getD "")

end Url

end VirtualHosting
