/-
# Text.Fold — names that differ only in letter case

Host names are compared with the letters `A` to `Z` taken as `a` to `z`; every
other character, letters outside that range included, stands for itself.

* `lower_of_beyond`: a character beyond ASCII stands for itself;
* `fold_fold`: folding twice is folding once;
* `sameFolded_iff`: two names agree exactly when their folded forms are equal.
-/

namespace VirtualHosting.Text

set_option autoImplicit false

/-- The letter `a` to `z` for a letter `A` to `Z`, else the character itself. -/
def lower (c : Char) : Char :=
  if 65 ≤ c.toNat ∧ c.toNat ≤ 90 then Char.ofNat (c.toNat + 32) else c

/-- The name with `A` to `Z` written as `a` to `z`. -/
def fold (name : String) : String :=
  name.map lower

/-- The order of two names once both are folded. -/
def compareFolded (a b : String) : Ordering :=
  compare (fold a) (fold b)

/-- Whether two names agree once both are folded. -/
def sameFolded (a b : String) : Bool :=
  fold a == fold b

theorem lower_of_beyond {c : Char} (beyond : 128 ≤ c.toNat) : lower c = c := by
  rw [lower, if_neg (by omega)]

theorem lower_lower (c : Char) : lower (lower c) = lower c := by
  by_cases ascii : c.toNat < 128
  · have each : ∀ n < 128, lower (lower (Char.ofNat n)) = lower (Char.ofNat n) := by decide
    have := each c.toNat ascii
    rwa [Char.ofNat_toNat] at this
  · have same : lower c = c := lower_of_beyond (by omega)
    rw [same, same]

theorem fold_fold (name : String) : fold (fold name) = fold name := by
  apply String.toList_inj.1
  simp [fold, lower_lower, Function.comp_def]

theorem sameFolded_iff (a b : String) : sameFolded a b = true ↔ fold a = fold b := by
  simp [sameFolded]

end VirtualHosting.Text
