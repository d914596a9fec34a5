/-
# Search — halving a sorted array

Every table of the library is an array in ascending order, and every question
about one is "how many leading entries satisfy a test that holds of a first
stretch and of nothing after it?". `partitionPoint` answers it by halving.

* `partitionPoint_le`: the answer never exceeds the size of the array.
-/

namespace VirtualHosting.Search

set_option autoImplicit false

variable {α : Type}

/-- Halves `lo, hi` until they meet. Entries before `lo` satisfy `p`, entries
from `hi` on do not. -/
def narrow (xs : Array α) (p : α → Bool) (lo hi : Nat) : Nat :=
  if lo < hi then
    let mid := lo + (hi - lo) / 2
    match xs[mid]? with
    | some x => if p x then narrow xs p (mid + 1) hi else narrow xs p lo mid
    | none => lo
  else lo
termination_by hi - lo

/-- How many leading entries satisfy `p`, where `p` holds of a first stretch of
`xs` and of nothing after it. -/
def partitionPoint (xs : Array α) (p : α → Bool) : Nat :=
  narrow xs p 0 xs.size

theorem narrow_le (xs : Array α) (p : α → Bool) (lo hi : Nat) (h : lo ≤ hi) :
    narrow xs p lo hi ≤ hi := by
  fun_induction narrow xs p lo hi with
  | case1 lo hi lt mid x found holds ih => exact ih (by omega)
  | case2 lo hi lt mid x found fails ih => exact Nat.le_trans (ih (by omega)) (by omega)
  | case3 lo hi lt mid outside => exact h
  | case4 lo hi le => exact h

theorem partitionPoint_le (xs : Array α) (p : α → Bool) : partitionPoint xs p ≤ xs.size :=
  narrow_le xs p 0 xs.size (Nat.zero_le _)

end VirtualHosting.Search
