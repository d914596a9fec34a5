/-
# Text.Expression.Bracket — classes of characters in brackets

Brackets hold members: characters, ranges, named classes and brackets again. Two
equal signs between members make what is before and what is after them operands: of
both, of the first without the second, or of one alone. A closing bracket right at
the start is a member, and so are hyphens there.

Brackets are read for their height, the number of levels inside them: members next
to each other are a level, an operator is one, and the brackets themselves.
-/
import VirtualHosting.Text.Expression.Escape

namespace VirtualHosting.Text.Expression

set_option autoImplicit false

/-- The height of things beside each other: more than one of them are a level. -/
def heightBeside : List Nat → Nat
  | [] => 0
  | [height] => height
  | heights => heights.foldl max 0 + 1

/-- Brackets that are being read. -/
structure Bracket where
  /-- The height of what stands before the last operator. -/
  left : Option Nat := none
  /-- The heights of the members since then. -/
  members : List Nat := []

namespace Bracket

def add (b : Bracket) (height : Nat) : Bracket :=
  { b with members := height :: b.members }

/-- The height of what is inside. -/
def inside (b : Bracket) : Nat :=
  match b.left with
  | none => heightBeside b.members
  | some left => max left (heightBeside b.members) + 1

def height (b : Bracket) : Nat :=
  b.inside + 1

/-- Makes what was read the first operand of an operator. -/
def operator (b : Bracket) : Bracket :=
  { left := some b.inside }

/-- Reads hyphens, at most so many. -/
def hyphens (m : Modes) : Nat → List Char → Nat × List Char
  | n + 1, '-' :: rest =>
    let (count, rest) := hyphens m n (m.skip rest)
    (count + 1, rest)
  | _, cs => (0, cs)

/-- Reads behind an opening bracket what can only stand there. -/
def open? (m : Modes) (cs : List Char) : Option (Bracket × List Char) :=
  let first := m.skip cs
  let negated := first.head? == some '^'
  let (count, rest) := hyphens m cs.length (if negated then m.skip (first.drop 1) else first)
  let closes := count == 0 && rest.head? == some ']'
  let members := if closes then 1 else count
  if (negated && !m.unicode) || (members != 0 && !(Primitive.literal '-' false).fitsInside m) then
    none
  else
    some ({ members := List.replicate members 0 }, if closes then m.skip (rest.drop 1) else rest)

/-- The classes of ASCII characters that have a name. -/
def classNames : List String :=
  ["alnum", "alpha", "ascii", "blank", "cntrl", "digit", "graph", "lower", "print", "punct",
    "space", "upper", "word", "xdigit"]

/-- Reads a named class behind its bracket. Says whether it means everything else. -/
def named? : List Char → Option (Bool × List Char)
  | ':' :: cs =>
    let negated := cs.head? == some '^'
    let cs := if negated then cs.drop 1 else cs
    let name := cs.takeWhile (· != ':')
    match cs.drop name.length with
    | ':' :: ']' :: rest =>
      if String.ofList name ∈ classNames then some (negated, rest) else none
    | _ => none
  | _ => none

/-- Reads a character or an escape inside brackets. -/
def item? (m : Modes) : List Char → Option (Primitive × List Char)
  | [] => none
  | '\\' :: rest => escape? m rest
  | c :: rest => some (.literal c false, rest)

/-- Reads a member or a range of them. A hyphen makes no range in front of a closing
bracket or another hyphen. -/
def range? (m : Modes) (cs : List Char) : Option (List Char) := do
  let (first, rest) ← item? m cs
  if !first.fitsInside m then none
  else match m.skip rest with
    | '-' :: rest =>
      match m.skip rest with
      | ']' :: _ | '-' :: _ => some ('-' :: rest)
      | cs =>
        let (last, rest) ← item? m cs
        match first, last with
        | .literal a _, .literal b _ => if last.fitsInside m && a ≤ b then some rest else none
        | _, _ => none
    | rest => some rest

/-- Reads brackets up to the one that closes the outermost. `outside` are those
around the current ones. Answers their height. -/
def read? (m : Modes) : Nat → List Bracket → Bracket → List Char → Option (Nat × List Char)
  | 0, _, _, _ => none
  | fuel + 1, outside, b, cs =>
    match m.skip cs with
    | [] => none
    | '[' :: rest =>
      match named? rest with
      | some (negated, rest) =>
        if (Primitive.literal 'a' false).fitsInside m && (m.unicode || !negated) then
          read? m fuel outside (b.add 0) rest
        else none
      | none => do
        let (inner, rest) ← open? m rest
        read? m fuel (b :: outside) inner rest
    | ']' :: rest =>
      match outside with
      | [] => some (b.height, rest)
      | outer :: outside => read? m fuel outside (outer.add b.height) rest
    | '&' :: '&' :: rest => read? m fuel outside b.operator rest
    | '-' :: '-' :: rest => read? m fuel outside b.operator rest
    | '~' :: '~' :: rest => read? m fuel outside b.operator rest
    | cs => do read? m fuel outside (b.add 0) (← range? m cs)

end Bracket

/-- Reads brackets behind the one that opens them. Answers their height. -/
def bracketed? (m : Modes) (cs : List Char) : Option (Nat × List Char) := do
  let (b, rest) ← Bracket.open? m cs
  Bracket.read? m (rest.length + 1) [] b rest

end VirtualHosting.Text.Expression
