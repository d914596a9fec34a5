/-
# Text.CodeSet — sets of characters by their codes

Classes of characters such as letters or marks are unions of stretches of codes. A
set lists the codes at which a stretch inside it or outside it begins, ascending,
the first inside. A character is in the set exactly when an odd number of these
borders is not above its code.

* `forall_ascii`: a fact about all ASCII characters is one about 128 codes.
-/
import VirtualHosting.Search

namespace VirtualHosting.Text

set_option autoImplicit false

/-- A set of characters, as the codes where it begins and ends in turn. -/
structure CodeSet where
  borders : Array Nat
  deriving DecidableEq, Repr

namespace CodeSet

/-- Whether a character is in the set. -/
def contains (set : CodeSet) (c : Char) : Bool :=
  Search.partitionPoint set.borders (fun border => decide (border ≤ c.toNat)) % 2 == 1

end CodeSet

/-- What holds of the first 128 codes holds of every ASCII character. -/
theorem forall_ascii {P : Char → Prop} (each : ∀ n < 128, P (Char.ofNat n)) (c : Char)
    (ascii : c.toNat < 128) : P c := by
  have here := each c.toNat ascii
  rwa [Char.ofNat_toNat] at here

end VirtualHosting.Text
