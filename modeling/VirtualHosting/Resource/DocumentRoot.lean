/-
# Resource.DocumentRoot — probing below a directory

A path is probed below a document root. The slashes it starts with are dropped, what is
left is taken apart into the components that the file system sees in it, and those are
followed from the root. Empty segments say nothing, a single dot stays where it is; a
component that leads up or to the top is not followed, and a path that has one is not
looked at, wherever it would lead.

* `follow?_eq`: what is followed are the names, one below the other.
-/
import VirtualHosting.Resource

namespace VirtualHosting.DocumentRoot

set_option autoImplicit false

/-- The segments of a path, empty ones included. -/
def segments (path : String) : List String :=
  (Text.splitAt '/' path.toList).map String.ofList

/-- Whether a segment leads to a place below the one before it. -/
def isNamed (segment : String) : Bool :=
  segment != "" && segment != "."

/-- What a part of a path asks for. -/
inductive Component where
  /-- The top of the file system. -/
  | top
  /-- The place itself. -/
  | here
  /-- The place above. -/
  | up
  /-- The place of this name below. -/
  | named (name : String)
  deriving DecidableEq, Repr

/-- What a segment asks for, wherever it stands. -/
def Component.ofSegment? (segment : String) : Option Component :=
  if segment = ".." then some .up
  else if isNamed segment then some (.named segment)
  else none

/-- The name that a component goes down to. -/
def Component.name? : Component → Option String
  | named name => some name
  | _ => none

/-- What the start of a path asks for: a slash there is the top, and a single dot, which
says nothing elsewhere, the place itself. -/
def start (path : String) : List Component :=
  if Text.startsWith "/" path then [.top]
  else if (segments path).head? = some "." then [.here]
  else []

/-- The components of a path. -/
def components (path : String) : List Component :=
  start path ++ (segments path).filterMap Component.ofSegment?

/-- The path without the slashes it starts with. -/
def relative (path : String) : String :=
  String.ofList (path.toList.dropWhile (· == '/'))

/-- A place and a name below it. -/
def join (place segment : String) : String :=
  if place = "" || Text.endsWith "/" place then place ++ segment else place ++ "/" ++ segment

/-- Follows components down from a place. -/
def follow? (place : String) : List Component → Option String
  | [] => some place
  | .named name :: rest => follow? (join place name) rest
  | .here :: rest => follow? place rest
  | .up :: _ | .top :: _ => none

/-- Where the path lies, as a path of the file system. -/
def locate? (root path : String) : Option String :=
  follow? root (components (relative path))

/-- Probes the directory `root` of a file system that answers what each of its
paths names. -/
def probe (names : String → ResourceKind) (root : String) : Probe where
  look path := (locate? root path).map names

/-- The root's own path without the empty segments and single dots at its ends. -/
def trimmed (root : String) : String :=
  let core := ((segments root).dropWhile (!isNamed ·)).reverse.dropWhile (!isNamed ·)
  String.intercalate "/" core.reverse

/-- What is followed are the names, one below the other. -/
theorem follow?_eq (place : String) (parts : List Component) :
    follow? place parts = if .up ∈ parts ∨ .top ∈ parts then none
      else some ((parts.filterMap Component.name?).foldl join place) := by
  fun_induction follow? place parts with
  | case1 => simp
  | case2 place name rest ih => simp [ih, Component.name?]
  | case3 place rest ih => simp [ih, List.filterMap_cons, Component.name?]
  | case4 | case5 => simp

end VirtualHosting.DocumentRoot
