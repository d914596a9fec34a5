/-
# Proofs.Slice — a text cut at the first or the last of a character

The last segment of a path and the extension of a file name are what follows the
last slash and the last dot. Both are read backwards from the end of the text;
here they are stated forwards, as the one way to write the text with no such
character behind the cut. A host name is cut at its first dot, as the one way to
write it with no dot before the cut.

* `exists_last`: a list that has a character has a last one;
* `afterLast?_eq_some_iff`: what follows the last of a character;
* `fromFirst?_eq_some_iff`: what starts with the first of a character;
* `splitAt_append`, `intercalate_splitAt`: the stretches between a character, and the text
  they make up again;
* `startsWith_eq_true_iff`, `endsWith_eq_true_iff`: whether a text starts or ends with
  another.
-/
import Mathlib.Data.List.TakeWhile
import VirtualHosting.Text.Slice

namespace VirtualHosting.Text

set_option autoImplicit false

variable {c : Char}

theorem exists_last {cs : List Char} (mem : c ∈ cs) :
    ∃ front back, cs = front ++ c :: back ∧ c ∉ back := by
  obtain ⟨back, front, split, plain⟩ := List.eq_append_cons_of_mem (List.mem_reverse.2 mem)
  refine ⟨front.reverse, back.reverse, ?_, by rwa [List.mem_reverse]⟩
  have flipped := congrArg List.reverse split
  simpa using flipped

theorem bne_of_not_mem {cs : List Char} (plain : c ∉ cs) : ∀ d ∈ cs, (d != c) = true :=
  fun _ mem => bne_iff_ne.2 fun same => plain (same ▸ mem)

/-- Read backwards, a text stops at its last `c`. -/
theorem takeWhile_reverse_append (front : List Char) {back : List Char} (plain : c ∉ back) :
    (front ++ c :: back).reverse.takeWhile (· != c) = back.reverse := by
  have passed := bne_of_not_mem (mt List.mem_reverse.1 plain)
  rw [List.reverse_append, List.reverse_cons, List.append_assoc,
    List.takeWhile_append_of_pos passed]
  simp

theorem dropWhile_reverse_append (front : List Char) {back : List Char} (plain : c ∉ back) :
    (front ++ c :: back).reverse.dropWhile (· != c) = c :: front.reverse := by
  have passed := bne_of_not_mem (mt List.mem_reverse.1 plain)
  rw [List.reverse_append, List.reverse_cons, List.append_assoc,
    List.dropWhile_append_of_pos passed]
  simp

/-- What follows the last `c` has none in it. -/
theorem afterLast?_eq_some_iff {s rest : String} :
    afterLast? c s = some rest ↔
      ∃ front : String, s = front ++ String.singleton c ++ rest ∧ c ∉ rest.toList := by
  unfold afterLast?
  constructor
  · intro found
    split at found
    · rename_i mem
      obtain ⟨front, back, split, plain⟩ := exists_last mem
      rw [split, takeWhile_reverse_append front plain, List.reverse_reverse] at found
      obtain rfl := Option.some.inj found
      refine ⟨String.ofList front, String.toList_inj.1 ?_, by simpa using plain⟩
      simp [split]
    · cases found
  · rintro ⟨front, rfl, plain⟩
    have letters : (front ++ String.singleton c ++ rest).toList =
        front.toList ++ c :: rest.toList := by simp
    rw [letters, if_pos (by simp), takeWhile_reverse_append _ plain, List.reverse_reverse,
      String.ofList_toList]

/-- What starts with the first `c` has none before it. -/
theorem fromFirst?_eq_some_iff {s tail : String} :
    fromFirst? c s = some tail ↔
      ∃ lead rest : String, s = lead ++ String.singleton c ++ rest ∧ c ∉ lead.toList ∧
        tail = String.singleton c ++ rest := by
  have cut (lead rest : List Char) (plain : c ∉ lead) :
      (lead ++ c :: rest).dropWhile (· != c) = c :: rest := by
    rw [List.dropWhile_append_of_pos (bne_of_not_mem plain)]
    simp
  unfold fromFirst?
  constructor
  · intro found
    by_cases mem : c ∈ s.toList
    · obtain ⟨lead, rest, split, plain⟩ := List.eq_append_cons_of_mem mem
      rw [split, cut lead rest plain] at found
      obtain rfl := Option.some.inj found
      refine ⟨String.ofList lead, String.ofList rest, ?_, by simpa using plain, ?_⟩
      · apply String.toList_inj.1
        simp [split]
      · apply String.toList_inj.1
        simp
    · have nothing : s.toList.dropWhile (· != c) = [] := by
        rw [List.dropWhile_eq_nil_iff]
        exact bne_of_not_mem mem
      rw [nothing] at found
      cases found
  · rintro ⟨lead, rest, rfl, plain, rfl⟩
    have letters : (lead ++ String.singleton c ++ rest).toList =
        lead.toList ++ c :: rest.toList := by
      simp
    rw [letters, cut _ _ plain]
    apply congrArg some
    apply String.toList_inj.1
    simp

/-! ## Stretches between separators -/

theorem splitAt_of_not_mem {cs : List Char} (plain : c ∉ cs) : splitAt c cs = [cs] := by
  induction cs with
  | nil => rfl
  | cons d cs whole =>
    rw [List.mem_cons, not_or] at plain
    rw [splitAt, whole plain.2]
    exact if_neg (Ne.symm plain.1)

/-- A separator splits a text, whatever stands before and behind it. -/
theorem splitAt_append (front back : List Char) :
    splitAt c (front ++ c :: back) = splitAt c front ++ splitAt c back := by
  induction front with
  | nil =>
    cases split : splitAt c back with
    | nil => exact absurd split (splitAt_ne_nil c back)
    | cons first rest => simp [splitAt, split]
  | cons d front joined =>
    rw [List.cons_append, splitAt, splitAt, joined]
    cases split : splitAt c front with
    | nil => exact absurd split (splitAt_ne_nil c front)
    | cons first rest =>
      rw [List.cons_append]
      dsimp only
      split <;> rfl

theorem not_mem_of_mem_splitAt {cs stretch : List Char} (mem : stretch ∈ splitAt c cs) :
    c ∉ stretch := by
  induction cs generalizing stretch with
  | nil =>
    obtain rfl := List.mem_singleton.1 mem
    exact List.not_mem_nil
  | cons d cs plain =>
    rw [splitAt] at mem
    cases split : splitAt c cs with
    | nil => exact absurd split (splitAt_ne_nil c cs)
    | cons first rest =>
      rw [split] at mem plain
      dsimp only at mem
      split at mem
      · rcases List.mem_cons.1 mem with rfl | mem
        · exact List.not_mem_nil
        · exact plain mem
      · rename_i other
        rcases List.mem_cons.1 mem with rfl | mem
        · have below := plain List.mem_cons_self
          simp [below, Ne.symm other]
        · exact plain (List.mem_cons_of_mem _ mem)

/-- The stretches and the separators between them make up the text. -/
theorem intercalate_splitAt (cs : List Char) : [c].intercalate (splitAt c cs) = cs := by
  induction cs with
  | nil => rfl
  | cons d cs joined =>
    rw [splitAt]
    cases split : splitAt c cs with
    | nil => exact absurd split (splitAt_ne_nil c cs)
    | cons first rest =>
      rw [split] at joined
      dsimp only
      split
      · rename_i same
        rw [same]
        simpa [List.intercalate] using joined
      · cases rest <;> simpa [List.intercalate] using joined

/-! ## First and last parts -/

/-- The text behind its first part. -/
theorem dropLength_append (lead rest : String) : dropLength lead (lead ++ rest) = rest := by
  rw [← String.toList_inj]
  simp [dropLength]

theorem startsWith_eq_true_iff {lead s : String} :
    startsWith lead s = true ↔ ∃ rest, s = lead ++ rest := by
  rw [startsWith, List.isPrefixOf_iff_prefix]
  constructor
  · rintro ⟨rest, split⟩
    refine ⟨String.ofList rest, String.toList_inj.1 ?_⟩
    simpa using split.symm
  · rintro ⟨rest, rfl⟩
    exact ⟨rest.toList, by simp⟩

theorem endsWith_eq_true_iff {tail s : String} :
    endsWith tail s = true ↔ ∃ front, s = front ++ tail := by
  rw [endsWith, List.isSuffixOf_iff_suffix]
  constructor
  · rintro ⟨front, split⟩
    refine ⟨String.ofList front, String.toList_inj.1 ?_⟩
    simpa using split.symm
  · rintro ⟨front, rfl⟩
    exact ⟨front.toList, by simp⟩

end VirtualHosting.Text
