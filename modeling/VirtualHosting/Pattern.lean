/-
# Pattern — what a handler is registered for

A pattern is written in one of five shapes: nothing at all for the application
root, `/` for the fallback, `/lead/*` for every path that `/lead` covers,
`*.suffix` for file names, and any other text that starts with `/` for exactly
that path. Each shape has its own slot in a handler set, addressed by a key that
leaves out what the shape already says.

* `text_of_parse`: a pattern that was read is written back as it was;
* `key_root`, `key_fallback`: the two shapes whose keys are fixed.
-/
import VirtualHosting.Text.Slice
import VirtualHosting.Text.Quoted

namespace VirtualHosting

set_option autoImplicit false

/-- The shapes of a handler pattern. -/
inductive Pattern where
  /-- The application root, written as nothing. -/
  | root
  /-- Whatever no other pattern claims, written `/`. -/
  | fallback
  /-- Every path that `lead` covers, written `lead/*`. -/
  | wildcard (lead : String)
  /-- Every file name that ends in a dot and `suffix`, written `*.suffix`. -/
  | extension (suffix : String)
  /-- One path. -/
  | exact (path : String)
  deriving DecidableEq, Repr

namespace Pattern

/-- Why a text is no pattern. -/
inductive Fault where
  | lineBreak
  | slashInExtension
  | noExtension
  | noLead
  | extensionInPath
  deriving DecidableEq, Repr

/-- The wording of a fault. -/
def Fault.message : Fault → String
  | lineBreak => "contains a line break"
  | slashInExtension => "extension pattern contains '/'"
  | noExtension => "extension pattern has no extension"
  | noLead => "must start with '/' or '*.'"
  | extensionInPath => "extension wildcard inside a path pattern"

/-- Reads a pattern that starts with a slash. -/
def parsePath (text : String) : Except Fault Pattern :=
  if Text.occursIn "*." text then .error .extensionInPath
  else if text = "/" then .ok .fallback
  else match Text.stripEnd? "/*" text with
    | some lead => .ok (.wildcard lead)
    | none => .ok (.exact text)

/-- Reads a pattern. -/
def parse (text : String) : Except Fault Pattern :=
  if text.toList.any fun c => c == '\n' || c == '\r' then .error .lineBreak
  else if text = "" then .ok .root
  else match Text.strip? "*." text with
    | some suffix =>
      if '/' ∈ suffix.toList then .error .slashInExtension
      else if suffix = "" then .error .noExtension
      else .ok (.extension suffix)
    | none => if Text.startsWith "/" text then parsePath text else .error .noLead

/-- The name under which a handler set stores the pattern's handler. -/
def key : Pattern → String
  | root => "/"
  | fallback => ""
  | wildcard lead => lead
  | extension suffix => suffix
  | exact path => path

/-- The pattern as it is written. -/
def text : Pattern → String
  | root => ""
  | fallback => "/"
  | wildcard lead => lead ++ "/*"
  | extension suffix => "*." ++ suffix
  | exact path => path

/-- The shape and what it holds, for diagnostics. -/
def describe : Pattern → String
  | root => "ApplicationRoot"
  | fallback => "Default"
  | wildcard lead => "Prefix(" ++ Text.quoted lead ++ ")"
  | extension suffix => "Extension(" ++ Text.quoted suffix ++ ")"
  | exact path => "Exact(" ++ Text.quoted path ++ ")"

/-- The star at the end of such a pattern is an ordinary character, which is
seldom what was meant: `/shop*`, or `*.a*`. -/
def isUnusual : Pattern → Bool
  | extension suffix => Text.endsWith "*" suffix
  | exact path => Text.endsWith "*" path
  | _ => false

@[simp]
theorem key_root : key root = "/" := rfl

@[simp]
theorem key_fallback : key fallback = "" := rfl

theorem text_of_parsePath {written : String} {p : Pattern} (read : parsePath written = .ok p) :
    p.text = written := by
  unfold parsePath at read
  split at read
  · cases read
  · split at read
    · cases read; simp_all [text]
    · split at read
      · rename_i lead split
        cases read
        simp only [Text.stripEnd?, Option.map_eq_some_iff] at split
        obtain ⟨rev, shape, rfl⟩ := split
        rw [Text.afterLead?_eq_some_iff] at shape
        apply String.toList_inj.1
        have := congrArg List.reverse shape
        simpa [text] using this.symm
      · cases read; rfl

theorem text_of_parse {written : String} {p : Pattern} (read : parse written = .ok p) :
    p.text = written := by
  unfold parse at read
  split at read
  · cases read
  · split at read
    · cases read; simp_all [text]
    · split at read
      · rename_i suffix split
        rw [Text.strip?_eq_some_iff] at split
        split at read
        · cases read
        · split at read
          · cases read
          · cases read; exact split.symm
      · split at read
        · exact text_of_parsePath read
        · cases read

end Pattern

end VirtualHosting
