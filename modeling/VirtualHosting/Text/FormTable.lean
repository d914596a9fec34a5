/-
# Text.FormTable — texts that stand for single characters

Tables that give characters other texts are dense in places: they hold a text for
each of a stretch of successive characters, for some of them the character itself.
The texts of a stretch are written in lines, a blank between two texts.
-/
import VirtualHosting.Search
import VirtualHosting.Text.Slice

namespace VirtualHosting.Text

set_option autoImplicit false

/-- The texts of successive characters. -/
structure FormStretch where
  /-- The code of the first of them. -/
  first : Nat
  forms : Array (List Char)
  deriving Repr

/-- The stretch from a code on with the texts on these lines. -/
def FormStretch.ofLines (first : Nat) (lines : List String) : FormStretch :=
  ⟨first, (lines.flatMap fun line => splitAt ' ' line.toList).toArray⟩

/-- Stretches in ascending order. -/
structure FormTable where
  stretches : Array FormStretch
  deriving Repr

namespace FormTable

/-- The text of a character, if the table has one. -/
def find? (table : FormTable) (c : Char) : Option (List Char) :=
  match Search.partitionPoint table.stretches fun s => decide (s.first ≤ c.toNat) with
  | 0 => none
  | n + 1 => table.stretches[n]?.bind fun s => s.forms[c.toNat - s.first]?

/-- The characters with a text, each with its text, in ascending order. -/
def toList (table : FormTable) : List (Char × List Char) :=
  table.stretches.toList.flatMap fun s =>
    s.forms.toList.zipIdx.map fun (form, i) => (Char.ofNat (s.first + i), form)

end FormTable

end VirtualHosting.Text
