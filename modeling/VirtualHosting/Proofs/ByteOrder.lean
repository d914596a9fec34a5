/-
# Proofs.ByteOrder — the order of texts is the order of their bytes

A table orders its names as texts, character by character, while a comparison of names
in memory goes byte by byte. The two orders are one. A character is a code, written in
digits to base 64. The first byte holds the leading digit and a mark that says how many
bytes follow; more bytes mean a greater code and a greater mark, and among characters of
equally many bytes the digits decide.

Letter case is a matter of bytes too: those of the letters `A` to `Z` are part of no other
character, so a text is folded by folding each of its bytes.

* `utf8EncodeChar_eq`: a character as a mark and digits;
* `lt_iff_bytes_lt`, `le_iff_bytes_le`: texts compare as their bytes do;
* `bytes_fold`: a text is folded byte by byte;
* `compareFolded_eq`, `fold_eq_fold_iff`: names that are compared folded are compared by
  their folded bytes.
-/
import VirtualHosting.Proofs.ByteCuts
import VirtualHosting.Text.CodeSet

namespace VirtualHosting.Text

set_option autoImplicit false

variable {a b : String} {v w : Nat}

/-! ## Codes in digits -/

/-- How many bytes follow the first where a code is written out. -/
def trailing (v : Nat) : Nat :=
  if v ≤ 127 then 0 else if v ≤ 2047 then 1 else if v ≤ 65535 then 2 else 3

/-- The mark in a first byte that `k` bytes follow. -/
def mark : Nat → Nat
  | 0 => 0
  | 1 => 192
  | 2 => 224
  | 3 => 240
  | _ => 248

/-- A number to base 64: a leading digit raised by `lead`, and `k` digits raised by 128. -/
def digits (lead : Nat) : Nat → Nat → List UInt8
  | 0, v => [UInt8.ofNat (v + lead)]
  | k + 1, v => digits lead k (v / 64) ++ [UInt8.ofNat (v % 64 + 128)]

theorem trailing_lt (v : Nat) : trailing v < 4 := by
  unfold trailing
  split_ifs <;> decide

theorem trailing_le (le : v ≤ w) : trailing v ≤ trailing w := by
  unfold trailing
  split_ifs <;> omega

theorem mark_le (k : Nat) : mark k ≤ 248 := by
  unfold mark
  split <;> decide

/-- Between two marks there is room for the digits beside the lesser. -/
theorem mark_succ_le {j k : Nat} (lt : j < k) (few : k < 4) : mark (j + 1) ≤ mark k := by
  have each : ∀ k < 4, ∀ j < k, mark (j + 1) ≤ mark k := by decide
  exact each k few j lt

theorem toNat_lt (c : Char) : c.toNat < 1114112 := by
  have valid := c.valid
  simp only [UInt32.isValidChar, Nat.isValidChar] at valid
  have code : c.toNat = c.val.toNat := rfl
  omega

/-- What a first byte holds stays below the next mark. -/
theorem leading_lt (valid : v < 1114112) :
    v / 64 ^ trailing v + mark (trailing v) < mark (trailing v + 1) := by
  unfold trailing
  split_ifs <;> simp only [mark] <;> omega

/-- A character is written as a mark and the digits of its code. -/
theorem utf8EncodeChar_eq (c : Char) :
    String.utf8EncodeChar c = digits (mark (trailing c.toNat)) (trailing c.toNat) c.toNat := by
  have valid := toNat_lt c
  have code : c.val.toNat = c.toNat := rfl
  simp only [String.utf8EncodeChar, code, trailing]
  generalize c.toNat = v at valid
  split_ifs with one two three
  · rfl
  · rw [Nat.mod_eq_of_lt (by omega : v / 64 < 32)]
    rfl
  · rw [Nat.mod_eq_of_lt (by omega : v / 4096 < 16)]
    simp only [digits, mark, Nat.div_div_eq_div_mul, List.cons_append, List.nil_append]
  · rw [Nat.mod_eq_of_lt (by omega : v / 262144 < 8)]
    simp only [digits, mark, Nat.div_div_eq_div_mul, List.cons_append, List.nil_append]

theorem ofNat_lt_ofNat (lt : v < w) (fits : w < 256) : UInt8.ofNat v < UInt8.ofNat w := by
  rw [UInt8.lt_iff_toNat_lt, UInt8.toNat_ofNat', UInt8.toNat_ofNat']
  omega

theorem exists_digits_eq_cons (lead k v : Nat) :
    ∃ rest, digits lead k v = UInt8.ofNat (v / 64 ^ k + lead) :: rest := by
  induction k generalizing v with
  | zero => exact ⟨[], by rw [digits, Nat.pow_zero, Nat.div_one]⟩
  | succ k first =>
    obtain ⟨rest, written⟩ := first (v / 64)
    refine ⟨rest ++ [UInt8.ofNat (v % 64 + 128)], ?_⟩
    rw [digits, written, Nat.div_div_eq_div_mul, ← Nat.pow_succ']
    rfl

/-- Of two numbers in equally many digits the lesser comes first, whatever follows. -/
theorem digits_append_lt {lead k : Nat} (lt : v < w) (fits : w / 64 ^ k + lead < 256)
    (rest rest' : List UInt8) : digits lead k v ++ rest < digits lead k w ++ rest' := by
  induction k generalizing v w rest rest' with
  | zero =>
    rw [Nat.pow_zero, Nat.div_one] at fits
    exact List.cons_lt_cons_iff.2 (.inl (ofNat_lt_ofNat (by omega) fits))
  | succ k smaller =>
    rw [digits, digits, List.append_assoc, List.append_assoc]
    rcases Nat.lt_or_ge (v / 64) (w / 64) with earlier | later
    · rw [Nat.pow_succ', ← Nat.div_div_eq_div_mul] at fits
      exact smaller earlier fits _ _
    · have same : v / 64 = w / 64 := by omega
      rw [same]
      apply List.append_left_lt
      exact List.cons_lt_cons_iff.2 (.inl (ofNat_lt_ofNat (by omega) (by omega)))

/-- The first byte of a character holds its mark. -/
theorem exists_utf8EncodeChar_eq_cons (c : Char) :
    ∃ b rest, String.utf8EncodeChar c = b :: rest ∧ mark (trailing c.toNat) ≤ b.toNat ∧
      b.toNat < mark (trailing c.toNat + 1) := by
  obtain ⟨rest, first⟩ := exists_digits_eq_cons (mark (trailing c.toNat)) (trailing c.toNat) c.toNat
  have room := leading_lt (toNat_lt c)
  have top := mark_le (trailing c.toNat + 1)
  have held := UInt8.toNat_ofNat_of_lt' (room.trans_le (top.trans (by decide : 248 ≤ UInt8.size)))
  refine ⟨_, rest, (utf8EncodeChar_eq c).trans first, ?_, ?_⟩
  · rw [held]
    exact Nat.le_add_left _ _
  · rwa [held]

/-- Of two characters the one with the lesser code comes first, whatever follows. -/
theorem utf8EncodeChar_append_lt {c d : Char} (lt : c < d) (rest rest' : List UInt8) :
    String.utf8EncodeChar c ++ rest < String.utf8EncodeChar d ++ rest' := by
  have codes : c.toNat < d.toNat := lt
  rcases (trailing_le codes.le).lt_or_eq with fewer | equally
  · -- the marks differ, and so do the first bytes
    obtain ⟨b, more, first, _, below⟩ := exists_utf8EncodeChar_eq_cons c
    obtain ⟨b', more', first', above, _⟩ := exists_utf8EncodeChar_eq_cons d
    have apart := mark_succ_le fewer (trailing_lt d.toNat)
    rw [first, first']
    exact List.cons_lt_cons_iff.2 (.inl (UInt8.lt_iff_toNat_lt.2 (by omega)))
  · -- under one mark the digits decide
    have room := leading_lt (toNat_lt d)
    have top := mark_le (trailing d.toNat + 1)
    rw [utf8EncodeChar_eq, utf8EncodeChar_eq, equally]
    exact digits_append_lt codes (by omega) rest rest'

/-! ## One order -/

theorem bytes_ofList_cons (c : Char) (cs : List Char) :
    bytes (String.ofList (c :: cs)) = String.utf8EncodeChar c ++ bytes (String.ofList cs) := by
  rw [ofList_cons, bytes_append, bytes_singleton]

theorem bytes_lt_bytes (lt : a < b) : bytes a < bytes b := by
  obtain ⟨cs, rfl⟩ := exists_ofList a
  obtain ⟨ds, rfl⟩ := exists_ofList b
  rw [String.lt_iff_toList_lt, String.toList_ofList, String.toList_ofList] at lt
  induction lt with
  | @nil d ds =>
    obtain ⟨b, more, first, _⟩ := exists_utf8EncodeChar_eq_cons d
    rw [bytes_ofList_cons, first]
    exact List.nil_lt_cons _ _
  | rel lt =>
    rw [bytes_ofList_cons, bytes_ofList_cons]
    exact utf8EncodeChar_append_lt lt _ _
  | cons _ later =>
    rw [bytes_ofList_cons, bytes_ofList_cons]
    exact List.append_left_lt later

/-- **Texts compare as their bytes do.** -/
theorem lt_iff_bytes_lt (a b : String) : a < b ↔ bytes a < bytes b := by
  refine ⟨bytes_lt_bytes, fun lt => ?_⟩
  rcases lt_trichotomy a b with earlier | rfl | later
  · exact earlier
  · exact absurd lt (List.lt_irrefl _)
  · exact absurd (bytes_lt_bytes later) (List.lt_asymm lt)

theorem le_iff_bytes_le (a b : String) : a ≤ b ↔ bytes a ≤ bytes b :=
  not_lt.symm.trans (not_congr (lt_iff_bytes_lt b a))

theorem bytes_inj : bytes a = bytes b ↔ a = b := by
  rw [bytes, bytes, Array.toList_inj, ← ByteArray.ext_iff, String.toByteArray_inj]

/-! ## Letter case -/

/-- The byte of `a` to `z` for a byte of `A` to `Z`, else the byte itself. -/
def lowerByte (b : UInt8) : UInt8 :=
  if 65 ≤ b ∧ b ≤ 90 then b + 32 else b

/-- The bytes of a text, with those of `A` to `Z` taken as those of `a` to `z`. -/
def foldedBytes (s : String) : List UInt8 :=
  (bytes s).map lowerByte

theorem lowerByte_of_beyond {b : UInt8} (beyond : 128 ≤ b.toNat) : lowerByte b = b := by
  refine if_neg fun letter => ?_
  have upTo : b.toNat ≤ 90 := UInt8.le_iff_toNat_le.1 letter.2
  omega

/-- No byte of a character is folded but that of a letter, and to the letter it folds to. -/
theorem map_lowerByte_utf8EncodeChar (c : Char) :
    (String.utf8EncodeChar c).map lowerByte = String.utf8EncodeChar (lower c) := by
  rcases Nat.lt_or_ge c.toNat 128 with ascii | beyond
  · have below : (lower c).toNat < 128 :=
      forall_ascii (P := fun c => (lower c).toNat < 128) (by decide) c ascii
    have letter : lowerByte (asciiByte c) = asciiByte (lower c) :=
      forall_ascii (P := fun c => lowerByte (asciiByte c) = asciiByte (lower c)) (by decide) c ascii
    rw [utf8EncodeChar_ascii ascii, utf8EncodeChar_ascii below, List.map_singleton, letter]
  · rw [lower_of_beyond beyond]
    have stay : ∀ b ∈ String.utf8EncodeChar c, lowerByte b = b :=
      fun b mem => lowerByte_of_beyond (le_of_mem_utf8EncodeChar beyond mem)
    exact (List.map_congr_left stay).trans (List.map_id' _)

/-- **A text is folded byte by byte.** -/
theorem bytes_fold (s : String) : bytes (fold s) = foldedBytes s := by
  obtain ⟨cs, rfl⟩ := exists_ofList s
  have folded (cs : List Char) : fold (String.ofList cs) = String.ofList (cs.map lower) := by
    apply String.toList_inj.1
    simp [fold]
  rw [folded]
  induction cs with
  | nil => rfl
  | cons c cs rest =>
    rw [List.map_cons, bytes_ofList_cons, rest, foldedBytes, foldedBytes, bytes_ofList_cons,
      List.map_append, map_lowerByte_utf8EncodeChar]

theorem fold_lt_fold_iff (a b : String) : fold a < fold b ↔ foldedBytes a < foldedBytes b := by
  rw [lt_iff_bytes_lt, bytes_fold, bytes_fold]

theorem fold_le_fold_iff (a b : String) : fold a ≤ fold b ↔ foldedBytes a ≤ foldedBytes b := by
  rw [le_iff_bytes_le, bytes_fold, bytes_fold]

theorem fold_eq_fold_iff (a b : String) : fold a = fold b ↔ foldedBytes a = foldedBytes b := by
  rw [← bytes_inj, bytes_fold, bytes_fold]

/-- **Names that are compared folded are compared by their folded bytes.** -/
theorem compareFolded_eq (a b : String) :
    compareFolded a b = compareOfLessAndEq (foldedBytes a) (foldedBytes b) := by
  rw [compareFolded, LinearOrder.compare_eq_compareOfLessAndEq]
  simp only [compareOfLessAndEq, fold_lt_fold_iff, fold_eq_fold_iff]

theorem compareFolded_ne_gt_iff (a b : String) : compareFolded a b ≠ .gt ↔ fold a ≤ fold b := by
  rw [compareFolded_eq, fold_le_fold_iff]
  exact not_congr (compareOfLessAndEq_eq_gt List.le_antisymm List.le_total List.not_le _ _)

end VirtualHosting.Text
