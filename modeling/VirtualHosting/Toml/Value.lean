/-
# Toml.Value — what a TOML document says

A `Value` is a scalar, an array or a table. Numbers and dates, which no
descriptor asks for, are kept only as far as telling them apart needs: an integer
by its value, the others by their spelling.
-/
import VirtualHosting.Text.Slice

namespace VirtualHosting.Toml

set_option autoImplicit false

/-- A TOML value. -/
inductive Value where
  | string (text : String)
  | integer (value : Int)
  | float (spelling : String)
  | boolean (value : Bool)
  | datetime (spelling : String)
  | array (items : List Value)
  | table (entries : List (String × Value))
  deriving Inhabited

/-- A reader takes characters off the front of a text, or refuses it. -/
abbrev Reader (α : Type) := List Char → Option (α × List Char)

namespace Reader

variable {α : Type}

/-- Reads exactly these characters. -/
def exactly (lead : String) : Reader Unit := fun cs =>
  (Text.afterLead? lead.toList cs).map fun rest => ((), rest)

/-- Reads one character of a class. -/
def one (accepts : Char → Bool) : Reader Char
  | c :: cs => if accepts c then some (c, cs) else none
  | [] => none

/-- Reads `n` characters of a class. -/
def exactCount (accepts : Char → Bool) : Nat → Reader (List Char)
  | 0, cs => some ([], cs)
  | n + 1, cs => do
    let (c, rest) ← one accepts cs
    let (more, rest) ← exactCount accepts n rest
    some (c :: more, rest)

/-- Reads an item where there is one. -/
def optional (read : Reader α) : Reader (Option α) := fun cs =>
  match read cs with
  | some (a, rest) => some (some a, rest)
  | none => some (none, cs)

/-- Reads at most `n` items, for as long as there are any. -/
def upTo (read : Reader α) : Nat → List Char → List α × List Char
  | 0, cs => ([], cs)
  | n + 1, cs =>
    match read cs with
    | none => ([], cs)
    | some (a, rest) =>
      let (more, last) := upTo read n rest
      (a :: more, last)

/-- Reads items for as long as there are any. An item takes at least a character,
so there are no more items than characters. -/
def many (read : Reader α) (cs : List Char) : List α × List Char :=
  upTo read cs.length cs

/-- Reads items with a separator between them, perhaps none. A separator that no
item follows is left in the text. -/
def separated (item : Reader α) (separator : Reader Unit) : Reader (List α) := fun cs =>
  match item cs with
  | none => some ([], cs)
  | some (first, rest) =>
    let (more, rest) := many (fun cs => do
      let ((), rest) ← separator cs
      item rest) rest
    some (first :: more, rest)

theorem length_exactCount {accepts : Char → Bool} {n : Nat} {cs read rest : List Char}
    (h : exactCount accepts n cs = some (read, rest)) : read.length = n := by
  induction n generalizing cs read rest with
  | zero =>
    obtain ⟨rfl, rfl⟩ : [] = read ∧ cs = rest := by simpa [exactCount] using h
    rfl
  | succ n ih =>
    simp only [exactCount, Option.bind_eq_bind, Option.bind_eq_some_iff, Prod.exists] at h
    obtain ⟨c, after, -, more, last, tail, eq⟩ := h
    obtain ⟨rfl, rfl⟩ : c :: more = read ∧ last = rest := by simpa using eq
    simp [ih tail]

end Reader

end VirtualHosting.Toml
