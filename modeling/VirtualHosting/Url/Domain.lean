/-
# Url.Domain — domain names in ASCII

A domain name is looked up in ASCII. Its characters are put into plain form and
it is cut into labels at the dots; a label with characters beyond ASCII is then
written as `xn--` and its Punycode, and a label that is already written so is read
and has to be in plain form itself. A name is refused as a whole if a label of it
would look like another one: if it starts with a mark, asks letters to join that
do not, or changes its direction.

* `Label.read?_ascii`: an ordinary ASCII label stands for itself.
-/
import VirtualHosting.Text.Slice
import VirtualHosting.Url.Address
import VirtualHosting.Url.Domain.Direction
import VirtualHosting.Url.Domain.Joining
import VirtualHosting.Url.Percent
import VirtualHosting.Url.Punycode

namespace VirtualHosting.Url.Domain

set_option autoImplicit false

/-- What announces a label in Punycode. -/
def announcement : List Char := ['x', 'n', '-', '-']

/-- ASCII characters that no domain name has. -/
def isForbidden (c : Char) : Bool :=
  c.toNat ≤ 0x20 || c.toNat == 0x7F
    || c ∈ ['#', '%', '/', ':', '<', '>', '?', '@', '[', '\\', ']', '^', '|']

def isAscii (c : Char) : Bool :=
  c.toNat < 0x80

/-! ## Labels -/

/-- A label. -/
structure Label where
  /-- The characters that it stands for. -/
  shown : List Char
  /-- The label in ASCII. -/
  written : List Char
  deriving DecidableEq, Repr

/-- The most characters of a label beyond ASCII, and of its Punycode where it is read. -/
def longestShown : Nat := 1000
def longestCode : Nat := 2000

/-- Whether a label beyond ASCII is of a length that is looked at, and shows each of
its characters. -/
def isClear (label : List Char) : Bool :=
  label.length ≤ longestShown && !label.head?.any Text.isMark && joinersFit [] label

/-- What a text in Punycode stands for. -/
def reading? (code : List Char) : Option (List Char) := do
  let label ← Punycode.decode? code
  if plainText? label == some label && !label.any isForbidden && isClear label then some label
  else none

/-- Reads a label in plain form. -/
def Label.read? (label : List Char) : Option Label :=
  match Text.afterLead? announcement label with
  | some code =>
    if label.all isAscii && label.getLast? != some '-' && code.length ≤ longestCode then
      (reading? code).map fun shown => ⟨shown, label⟩
    else none
  | none =>
    if label.all isAscii then some ⟨label, label⟩
    else if isClear label then some ⟨label, announcement ++ Punycode.encode label⟩
    else none

/-! ## Names -/

/-- Whether labels read the same wherever they are shown beside each other. -/
def keepApart (labels : List Label) : Bool :=
  !labels.any (·.shown.any isRightward) || labels.all (directed ·.shown)

/-- A domain name in ASCII, its percent signs decoded first. -/
def toAscii? (name : List Char) : Option (List Char) := do
  let plain ← plainText? (← decode? name)
  if plain.any isForbidden then none
  else
    let labels ← (Text.splitAt '.' plain).mapM Label.read?
    if keepApart labels then some (List.intercalate ['.'] (labels.map (·.written))) else none

theorem Label.read?_ascii (label : List Char) (ascii : label.all isAscii = true)
    (ordinary : Text.afterLead? announcement label = none) :
    Label.read? label = some ⟨label, label⟩ := by
  simp only [Label.read?, ascii, if_true, ordinary]

end VirtualHosting.Url.Domain
