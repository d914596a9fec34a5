/-
# Text.Expression — regular expressions that can be used

Whoever asks for events with a certain value may describe the value by a regular
expression. Nothing is matched against it here, but whether it is one decides
whether what asks for it counts.

An expression is a list of branches between bars, a branch a list of pieces, and a
piece a group, a class in brackets or a single element, perhaps with signs behind it
that repeat it. A group may set modes for itself, or for what follows in the group
around it. No counted repetition is known, since no text that is looked at holds a
closing brace. An expression has at most `tallest` levels.
-/
import VirtualHosting.Text.Expression.Bracket
import VirtualHosting.Text.Letters

namespace VirtualHosting.Text.Expression

set_option autoImplicit false

/-- The most levels of an expression. -/
def tallest : Nat := 250

/-! ## Modes -/

/-- The signs that set modes. Only three of them matter for what can be used. -/
def modeSigns : List Char :=
  ['i', 'm', 's', 'U', 'u', 'R', 'x']

/-- Sets a mode. -/
def Modes.set (m : Modes) (sign : Char) (value : Bool) : Modes :=
  match sign with
  | 'i' => { m with caseless := value }
  | 'u' => { m with unicode := value }
  | 'x' => { m with spaced := value }
  | _ => m

/-- Sets the modes that these signs name, to true in front of a hyphen and to false
behind it. No sign stands twice, and a hyphen not at the end. -/
def Modes.setAll? (m : Modes) (signs : List Char) : Option Modes :=
  if signs.all (· ∈ '-' :: modeSigns) && signs.eraseDups.length == signs.length
      && signs.getLast? != some '-' then
    let on := signs.takeWhile (· != '-')
    let off := signs.drop (on.length + 1)
    some (off.foldl (·.set · false) (on.foldl (·.set · true) m))
  else none

/-! ## Groups -/

/-- What a branch is made of. -/
inductive Piece where
  /-- A setting of modes, which cannot be repeated. -/
  | setting
  | part (height : Nat)
  deriving DecidableEq, Repr

def Piece.height : Piece → Nat
  | setting => 0
  | part height => height

/-- A group that is being read, or the whole expression. -/
structure Group where
  /-- The modes in front of it, which hold behind it again. -/
  before : Modes := {}
  /-- The heights of the branches so far. -/
  branches : List Nat := []
  /-- The pieces of the last branch, last first. -/
  pieces : List Piece := []

namespace Group

def add (g : Group) (piece : Piece) : Group :=
  { g with pieces := piece :: g.pieces }

/-- Ends a branch. -/
def branch (g : Group) : Group :=
  { g with branches := heightBeside (g.pieces.map Piece.height) :: g.branches, pieces := [] }

/-- The height of what is inside. -/
def inside (g : Group) : Nat :=
  heightBeside g.branch.branches

/-- Repeats the last piece. -/
def repeated? (g : Group) : Option Group :=
  match g.pieces with
  | .part height :: pieces => some { g with pieces := .part (height + 1) :: pieces }
  | _ => none

end Group

/-- What has been read of an expression. -/
structure Reading where
  modes : Modes := {}
  group : Group := {}
  /-- The groups around it, from the inside out. -/
  outside : List Group := []
  /-- The names of groups so far. -/
  names : List (List Char) := []

namespace Reading

def add (r : Reading) (piece : Piece) : Reading :=
  { r with group := r.group.add piece }

/-- Opens a group under these modes. -/
def enter (r : Reading) (modes : Modes) : Reading :=
  { r with modes, group := { before := r.modes }, outside := r.group :: r.outside }

/-- Closes a group. -/
def leave? (r : Reading) : Option Reading :=
  match r.outside with
  | [] => none
  | outer :: outside =>
    some { r with
      modes := r.group.before
      group := outer.add (.part (r.group.inside + 1))
      outside }

/-- Whether a text can be the name of a group. -/
def isName : List Char → Bool
  | [] => false
  | c :: rest =>
    (c == '_' || alphabetic.contains c)
      && rest.all fun c => c ∈ ['_', '.', '[', ']'] || isAlphanumeric c

/-- Opens a group behind the start of its name. -/
def enterNamed? (r : Reading) (cs : List Char) : Option (Reading × List Char) :=
  let name := cs.takeWhile (· != '>')
  match cs.drop name.length with
  | [] => none
  | _ :: rest =>
    if isName name && !r.names.contains name then
      some ({ r with names := name :: r.names }.enter r.modes, rest)
    else none

/-- Opens a group behind a question mark, or sets modes. -/
def enterSetting? (r : Reading) (cs : List Char) : Option (Reading × List Char) := do
  let signs := cs.takeWhile (· ∉ [':', ')'])
  let modes ← r.modes.setAll? signs
  match cs.drop signs.length with
  | ':' :: rest => some (r.enter modes, rest)
  | _ :: rest => if signs.isEmpty then none else some ({ r.add .setting with modes }, rest)
  | [] => none

/-- Opens a group behind its parenthesis. -/
def open? (r : Reading) (cs : List Char) : Option (Reading × List Char) :=
  match r.modes.skip cs with
  | '?' :: 'P' :: '<' :: rest => r.enterNamed? rest
  | '?' :: '<' :: rest => r.enterNamed? rest
  | '?' :: rest => r.enterSetting? rest
  | rest => some (r.enter r.modes, rest)

/-- Adds a single element, if it fits. -/
def addPrimitive? (r : Reading) (p : Primitive) : Option Reading :=
  if p.fits r.modes then some (r.add (.part 0)) else none

/-- Repeats the last piece. A question mark behind the sign does not count. -/
def repeat? (r : Reading) (cs : List Char) : Option (Reading × List Char) :=
  r.group.repeated?.map fun group =>
    ({ r with group }, if cs.head? == some '?' then cs.drop 1 else cs)

/-- Reads on by one character or more. -/
def step? (r : Reading) (c : Char) (rest : List Char) : Option (Reading × List Char) :=
  match c with
  | '(' => r.open? rest
  | ')' => r.leave?.map (·, rest)
  | '|' => some ({ r with group := r.group.branch }, rest)
  | '[' => (bracketed? r.modes rest).map fun (height, rest) => (r.add (.part height), rest)
  | '?' | '*' | '+' => r.repeat? rest
  | '\x7b' => none
  | '\\' => do
    let (p, rest) ← escape? r.modes rest
    (r.addPrimitive? p).map (·, rest)
  | '.' => if r.modes.unicode then some (r.add (.part 0), rest) else none
  | '^' | '$' => some (r.add (.part 0), rest)
  | c => (r.addPrimitive? (.literal c false)).map (·, rest)

/-- Reads to the end. Answers the height of the expression. -/
def finish? : Nat → Reading → List Char → Option Nat
  | 0, _, _ => none
  | fuel + 1, r, cs =>
    match r.modes.skip cs with
    | [] => if r.outside.isEmpty then some r.group.inside else none
    | c :: rest => do
      let (r, rest) ← r.step? c rest
      finish? fuel r rest

end Reading

/-- Whether a text is an expression that can be used. -/
def isUsable (text : String) : Bool :=
  (Reading.finish? (text.toList.length + 1) {} text.toList).any (· ≤ tallest)

end VirtualHosting.Text.Expression
