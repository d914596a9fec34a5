/-
# Text.Quoted — texts and values as diagnostics show them

Messages name hosts, paths and versions in double quotes. A quote, a backslash
and the four common controls have a two-character escape, any other concealed
character is shown by its code in braces, and everything else stands for itself.

* `quoted_ne_empty`: a quoted text is never empty, so a message that quotes an
  empty name still shows where the name is.
-/
import VirtualHosting.Text.Printable

namespace VirtualHosting.Text

set_option autoImplicit false

/-- How one character is shown between double quotes. -/
def escape (c : Char) : List Char :=
  match c with
  | '\x00' => ['\\', '0']
  | '\t' => ['\\', 't']
  | '\r' => ['\\', 'r']
  | '\n' => ['\\', 'n']
  | '"' => ['\\', '"']
  | '\\' => ['\\', '\\']
  | c => if concealed c then '\\' :: 'u' :: '\x7b' :: (Nat.toDigits 16 c.toNat ++ ['\x7d']) else [c]

/-- The text between double quotes. -/
def quoted (s : String) : String :=
  String.ofList ('"' :: (s.toList.flatMap escape ++ ['"']))

/-- A text that may be missing. -/
def quotedOption : Option String → String
  | none => "None"
  | some s => "Some(" ++ quoted s ++ ")"

theorem quoted_ne_empty (s : String) : quoted s ≠ "" := by
  intro h
  have := congrArg String.toList h
  simp [quoted] at this

end VirtualHosting.Text
