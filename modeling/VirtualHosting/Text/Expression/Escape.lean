/-
# Text.Expression.Escape — single characters and escapes of an expression

A regular expression is read under modes that hold for a stretch of it. A backslash
takes the meaning from a sign, or gives one to a letter: a control, a character by
its code, a class such as the digits, the edge of a word or of the text.

There is no table of the letters and digits of all scripts. So a class can be named
by an escape, and letter case ignored, only where ASCII alone is meant; there,
however, nothing may match a part of a character beyond ASCII.

* `skipSpaced_length_le`: skipping makes no text longer.
-/
import VirtualHosting.Text.Blank
import VirtualHosting.Text.Hex

namespace VirtualHosting.Text.Expression

set_option autoImplicit false

/-- What holds for a stretch of an expression. -/
structure Modes where
  /-- Letter case does not matter. -/
  caseless : Bool := false
  /-- What matches is a character of any script, not one of ASCII or a byte. -/
  unicode : Bool := true
  /-- Blanks do not count, nor what follows a number sign on its line. -/
  spaced : Bool := false
  deriving DecidableEq, Repr

/-- Skips blanks and comments, from inside a comment or from outside. -/
def skipSpaced : Bool → List Char → List Char
  | _, [] => []
  | true, c :: rest => skipSpaced (c != '\n') rest
  | false, c :: rest =>
    if isSpace c then skipSpaced false rest
    else if c = '#' then skipSpaced true rest
    else c :: rest

/-- Skips what does not count. -/
def Modes.skip (m : Modes) (cs : List Char) : List Char :=
  if m.spaced then skipSpaced false cs else cs

/-- A single element of an expression. -/
inductive Primitive where
  /-- A character. It may be written as a byte, by two digits. -/
  | literal (c : Char) (asByte : Bool)
  /-- A class with an escape of its own, or everything else. -/
  | shorthand (negated : Bool)
  /-- An edge of a word, or no edge of one. -/
  | wordEdge
  /-- The start or the end of the text. -/
  | textEdge
  deriving DecidableEq, Repr

/-- Whether an element can stand where these modes hold. -/
def Primitive.fits (m : Modes) : Primitive → Bool
  | literal c asByte => if m.unicode then !m.caseless else !asByte || c.toNat < 0x80
  | shorthand negated => !m.unicode && !negated
  | wordEdge => !m.unicode
  | textEdge => true

/-- Whether an element can stand inside brackets where these modes hold. -/
def Primitive.fitsInside (m : Modes) : Primitive → Bool
  | literal c _ => if m.unicode then !m.caseless else c.toNat < 0x80
  | shorthand negated => !m.unicode && !negated
  | wordEdge | textEdge => false

/-- Reads the digits of a code. -/
def codeDigits? (m : Modes) : Nat → List Char → Option (List Char × List Char)
  | 0, cs => some ([], m.skip cs)
  | n + 1, cs =>
    match m.skip cs with
    | c :: rest =>
      if Hex.isDigit c then (codeDigits? m n rest).map fun (ds, rest) => (c :: ds, rest)
      else none
    | [] => none

/-- Reads a character by its code of so many digits. -/
def code? (m : Modes) (digits : Nat) (cs : List Char) : Option (Primitive × List Char) := do
  let (ds, rest) ← codeDigits? m digits cs
  let code := Hex.ofDigits 16 ds
  if code.isValidChar then some (.literal (Char.ofNat code) (digits == 2), rest) else none

/-- The controls that have an escape. -/
def control? : Char → Option Char
  | 'a' => some '\x07'
  | 'f' => some '\x0c'
  | 't' => some '\t'
  | 'n' => some '\n'
  | 'r' => some '\r'
  | 'v' => some '\x0b'
  | _ => none

/-- Signs that a backslash takes the meaning from, if they have any. -/
def isSign (c : Char) : Bool :=
  c.toNat < 0x80 && !c.isAlphanum && c != '<' && c != '>'

/-- Reads an escape behind its backslash. -/
def escape? (m : Modes) : List Char → Option (Primitive × List Char)
  | [] => none
  | c :: rest =>
    if isSign c then some (.literal c false, rest)
    else match c with
      | 'x' => code? m 2 rest
      | 'u' => code? m 4 rest
      | 'U' => code? m 8 rest
      | 'd' | 's' | 'w' => some (.shorthand false, rest)
      | 'D' | 'S' | 'W' => some (.shorthand true, rest)
      | 'b' | 'B' | '<' | '>' => some (.wordEdge, rest)
      | 'A' | 'z' => some (.textEdge, rest)
      | c => (control? c).map fun control => (.literal control false, rest)

theorem skipSpaced_length_le (inside : Bool) (cs : List Char) :
    (skipSpaced inside cs).length ≤ cs.length := by
  induction cs generalizing inside with
  | nil => cases inside <;> simp [skipSpaced]
  | cons c rest ih =>
    cases inside with
    | true => exact Nat.le_succ_of_le (ih _)
    | false =>
      unfold skipSpaced
      split
      · exact Nat.le_succ_of_le (ih _)
      · split
        · exact Nat.le_succ_of_le (ih _)
        · exact Nat.le_refl _

end VirtualHosting.Text.Expression
