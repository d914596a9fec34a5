/-
# Url.Domain.PlainForm — one spelling for letters that differ in form

Domain names that differ only in letter case, or in the width or style of a
letter, are the same name. Before a name is looked at, every character is put
into its plain form: letters in lower case, wide and circled letters as ordinary
ones, the full stops of other scripts as a dot. A few signs fall apart into
several characters and some, such as the soft hyphen, disappear. What cannot be
seen, or is unfit for names, has no plain form. The plain form of a letter with
marks is that of its pieces, unless it has one of its own.

* `plainForm?_ascii`: of the ASCII characters only the capital letters change;
* `plainText?_eq_none_iff`: a text has one unless one of its characters has none.
-/
import VirtualHosting.Text.Composition
import VirtualHosting.Text.Fold
import VirtualHosting.Text.Unseen
import VirtualHosting.Url.Domain.Forms

namespace VirtualHosting.Url.Domain

set_option autoImplicit false

/-- The plain form that a range of forms gives a character. -/
def rangeForm? (c : Char) : Option (List Char) :=
  (formRanges.find? fun r =>
    r.first ≤ c.toNat && c.toNat ≤ r.last && (c.toNat - r.first) % r.stride == 0).map fun r =>
      [Char.ofNat (r.plain + (c.toNat - r.first))]

/-- The plain form that is listed for a character. -/
def ownForm? (c : Char) : Option (List Char) :=
  rangeForm? c <|> formTable.find? c

/-- Characters that join the letters around them, or part them, and are not seen. -/
def isJoiner (c : Char) : Bool :=
  c = '\u200C' || c = '\u200D'

/-- Whether a character stands in no domain name. -/
def isRefused (c : Char) : Bool :=
  (Text.isUnseen c && !isJoiner c) || unfit.contains c

/-- The plain form of a character beyond ASCII. -/
def formBeyond? (c : Char) : Option (List Char) :=
  if ignored.contains c then some []
  else if isRefused c then none
  else some ((ownForm? c).getD
    ((Text.Composition.pieces c).flatMap fun piece => (ownForm? piece).getD [Text.lower piece]))

/-- The plain form of a character. -/
def plainForm? (c : Char) : Option (List Char) :=
  if c.toNat < 0x80 then some [Text.lower c] else formBeyond? c

/-- The plain form of a text, in its one spelling; some letters of it may have no
plain form. -/
def plainText? (cs : List Char) : Option (List Char) :=
  (cs.mapM plainForm?).map fun forms => Text.Composition.composed forms.flatten

theorem plainForm?_ascii (c : Char) (ascii : c.toNat < 0x80) :
    plainForm? c = some [Text.lower c] := by
  simp [plainForm?, ascii]

theorem plainText?_eq_none_iff (cs : List Char) :
    plainText? cs = none ↔ ∃ c ∈ cs, plainForm? c = none := by
  have each : cs.mapM plainForm? = none ↔ ∃ c ∈ cs, plainForm? c = none := by
    induction cs with
    | nil => simp
    | cons c rest ih =>
      cases form : plainForm? c with
      | none => simp [form]
      | some plain => cases more : rest.mapM plainForm? <;> simp_all
  rw [plainText?, Option.map_eq_none_iff, each]

end VirtualHosting.Url.Domain
