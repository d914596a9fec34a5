/-
# Text.Printable — characters a quoted text shows as they are

A character is *concealed* in quoted text if a reader could not see it or could
not tell where it belongs: what shows nothing, what extends the character before
it, and the letters that only hold the place of one.

* `not_concealed_ascii`: every ASCII character but the controls is shown.
-/
import VirtualHosting.Text.Marks
import VirtualHosting.Text.Unseen

namespace VirtualHosting.Text

set_option autoImplicit false

/-- Letters that show nothing: they hold the place of a letter in a syllable. -/
def isFiller (c : Char) : Bool :=
  c ∈ ['\u115F', '\u1160', '\u3164', '\uFFA0']

/-- Whether quoted text shows the code of `c` in place of `c`. -/
def concealed (c : Char) : Bool :=
  isUnseen c || extendsCharacter c || isFiller c

theorem not_concealed_ascii (c : Char) (low : 0x20 ≤ c.toNat) (high : c.toNat < 0x7F) :
    concealed c = false :=
  forall_ascii (P := fun c => 0x20 ≤ c.toNat → c.toNat < 0x7F → concealed c = false)
    (by decide +kernel) c (by omega) low high

end VirtualHosting.Text
