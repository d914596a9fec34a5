/-
# Proofs.Search — halving finds the border

A test that holds of a first stretch of an array and of nothing after it has a
border, and halving the array finds it: `partitionPoint_eq_length` names the
border as the length of that stretch, so whoever searches an array never speaks
of indices.
-/
import VirtualHosting.Search

namespace VirtualHosting.Search

set_option autoImplicit false

variable {α : Type} {xs : Array α} {p : α → Bool} {front back : List α}

/-- Where `xs` is `front` and then `back`, an entry that satisfies a test true of
all of `front` and of nothing in `back` stands before the border. -/
theorem lt_length_iff (whole : xs.toList = front ++ back) (holds : ∀ x ∈ front, p x = true)
    (fails : ∀ x ∈ back, p x = false) {i : Nat} {x : α} (found : xs[i]? = some x) :
    i < front.length ↔ p x = true := by
  have inList : (front ++ back)[i]? = some x := by
    rw [← whole, Array.getElem?_toList, found]
  constructor
  · intro before
    rw [List.getElem?_append_left before] at inList
    exact holds x (List.mem_of_getElem? inList)
  · intro satisfied
    rcases Nat.lt_or_ge i front.length with before | beyond
    · exact before
    · rw [List.getElem?_append_right beyond] at inList
      have refused := fails x (List.mem_of_getElem? inList)
      rw [satisfied] at refused
      cases refused

/-- Narrowing keeps the border between its two ends and stops where they meet. -/
theorem narrow_eq_length (whole : xs.toList = front ++ back) (holds : ∀ x ∈ front, p x = true)
    (fails : ∀ x ∈ back, p x = false) (lo hi : Nat) (above : lo ≤ front.length)
    (below : front.length ≤ hi) (inside : hi ≤ xs.size) :
    narrow xs p lo hi = front.length := by
  fun_induction narrow xs p lo hi with
  | case1 lo hi lt mid x found satisfied ih =>
    have before := (lt_length_iff whole holds fails found).2 satisfied
    exact ih (by omega) below inside
  | case2 lo hi lt mid x found refused ih =>
    have beyond := mt (lt_length_iff whole holds fails found).1 refused
    exact ih above (by omega) (by omega)
  | case3 lo hi lt mid outside =>
    have := Array.getElem?_eq_none_iff.1 outside
    omega
  | case4 lo hi met => omega

/-- **Halving finds the border**: the leading entries are those of the stretch
that satisfies the test. -/
theorem partitionPoint_eq_length (whole : xs.toList = front ++ back)
    (holds : ∀ x ∈ front, p x = true) (fails : ∀ x ∈ back, p x = false) :
    partitionPoint xs p = front.length := by
  have size : xs.size = front.length + back.length := by
    rw [← Array.length_toList, whole, List.length_append]
  exact narrow_eq_length whole holds fails 0 xs.size (by omega) (by omega) (by omega)

/-- Halving looks at an array only through what the test says of its entries. -/
theorem partitionPoint_congr {γ : Type} {ys : Array γ} {q : γ → Bool}
    (alike : xs.toList.map p = ys.toList.map q) : partitionPoint xs p = partitionPoint ys q := by
  have size : xs.size = ys.size := by simpa using congrArg List.length alike
  have pointwise (i : Nat) : xs[i]?.map p = ys[i]?.map q := by
    simpa using congrArg (·[i]?) alike
  suffices each : ∀ lo hi, narrow xs p lo hi = narrow ys q lo hi by
    rw [partitionPoint, partitionPoint, each, size]
  intro lo hi
  fun_induction narrow xs p lo hi with
  | case1 lo hi lt mid x found holds ih =>
    obtain ⟨y, there, holds'⟩ : ∃ y, ys[mid]? = some y ∧ q y = true := by
      rw [← Option.map_eq_some_iff, ← pointwise, found, Option.map_some, holds]
    rw [ih, narrow.eq_def ys q lo hi, if_pos lt]
    simp only [mid, there, holds', if_true]
  | case2 lo hi lt mid x found fails ih =>
    obtain ⟨y, there, fails'⟩ : ∃ y, ys[mid]? = some y ∧ q y = false := by
      rw [← Option.map_eq_some_iff, ← pointwise, found, Option.map_some, Bool.eq_false_iff.2 fails]
    rw [ih, narrow.eq_def ys q lo hi, if_pos lt]
    simp only [mid, there, fails', Bool.false_eq_true, if_false]
  | case3 lo hi lt mid outside =>
    have outside' : ys[mid]? = none := by
      rw [← Option.map_eq_none_iff, ← pointwise, outside, Option.map_none]
    rw [narrow.eq_def ys q lo hi, if_pos lt]
    simp only [mid, outside']
  | case4 lo hi le => rw [narrow.eq_def ys q lo hi, if_neg le]

end VirtualHosting.Search
