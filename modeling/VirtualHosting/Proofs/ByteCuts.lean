/-
# Proofs.ByteCuts — offsets in bytes, and the texts they cut

A path is searched for slashes byte by byte, and what is found is an offset, at which the
path is cut. Such a cut can fail: the offset may lie beyond the text, or inside a
character of more than one byte. Here texts are cut and read at offsets by operations that
say so when they fail. A byte that stands for an ASCII character is part of no other
character, so offsets that are found by looking for such bytes are good for a cut.

* `cut_eq_ok_iff`, `cut_isOk_iff`: a cut succeeds between two characters, and nowhere else;
* `byteAt_isOk_iff`: a byte is read within the text, and nowhere else;
* `offsets_append`, `offsets_eq_nil`: where an ASCII character stands, counted in bytes;
* `afterLast_eq`, `fromFirst_eq`: the text behind the last, or from the first of a
  character on;
* `nthSlash_eq`, `lastSlash_eq`: where the shorter paths to ask for end.
-/
import VirtualHosting.Proofs.Covering

namespace VirtualHosting

set_option autoImplicit false

/-- What stops a computation short of its answer. -/
inductive Fault where
  /-- An index that is none of the array. -/
  | index
  /-- An offset beyond the text or inside a character. -/
  | slice
  /-- A loop that comes round to where it was. -/
  | endless
  deriving DecidableEq, Repr

/-- A result, unless a fault stopped the computation. -/
abbrev Checked (α : Type) : Type :=
  Except Fault α

theorem Checked.ok_bind {α β : Type} (a : α) (f : α → Checked β) :
    ((.ok a : Checked α) >>= f) = f a := rfl

namespace Text

variable {a c : Char} {s first rest : String}

/-! ## Cuts -/

/-- The first `n` bytes of a text and those that follow. -/
def cut (n : Nat) (s : String) : Checked (String × String) :=
  match cutAfter? n s.toList with
  | some (first, rest) => .ok (String.ofList first, String.ofList rest)
  | none => .error .slice

/-- The first `n` bytes. -/
def sliceTo (n : Nat) (s : String) : Checked String :=
  (cut n s).map (·.1)

/-- The text without its first `n` bytes. -/
def sliceFrom (n : Nat) (s : String) : Checked String :=
  (cut n s).map (·.2)

theorem ofList_cons (c : Char) (cs : List Char) :
    String.ofList (c :: cs) = String.singleton c ++ String.ofList cs := by
  rw [← String.toList_inj]
  simp

theorem exists_ofList (s : String) : ∃ cs, s = String.ofList cs :=
  ⟨s.toList, String.ofList_toList.symm⟩

/-- A text around one of its characters. -/
theorem eq_ofList_append {front back : List Char} (split : s.toList = front ++ a :: back) :
    s = String.ofList front ++ String.singleton a ++ String.ofList back := by
  rw [← String.toList_inj, split]
  simp

theorem byteLength_eq (cs : List Char) : byteLength cs = (String.ofList cs).utf8ByteSize := by
  induction cs with
  | nil => rfl
  | cons c cs same =>
    rw [byteLength, same, ofList_cons, String.utf8ByteSize_append, String.utf8ByteSize_singleton]

/-- A cut at an offset splits the text into two that it is made of. -/
theorem cut_eq_ok_iff {n : Nat} :
    cut n s = .ok (first, rest) ↔ s = first ++ rest ∧ n = first.utf8ByteSize := by
  have whole : s = first ++ rest ↔ s.toList = first.toList ++ rest.toList := by
    rw [← String.toList_append, String.toList_inj]
  have size : first.utf8ByteSize = byteLength first.toList := by
    rw [byteLength_eq, String.ofList_toList]
  rw [whole, size, ← cutAfter?_eq_some_iff, cut]
  cases cutAfter? n s.toList with
  | none => simp
  | some parts =>
    obtain ⟨front, back⟩ := parts
    simp only [Except.ok.injEq, Prod.mk.injEq, Option.some.injEq]
    rw [← String.toList_inj, ← String.toList_inj, String.toList_ofList, String.toList_ofList]

/-- **A cut succeeds at the positions of the text**, which lie within it and between two of its
characters. -/
theorem cut_isOk_iff (n : Nat) (s : String) :
    (cut n s).isOk = true ↔ String.Pos.Raw.IsValid s ⟨n⟩ := by
  rw [String.Pos.Raw.isValid_iff_exists_append]
  constructor
  · intro succeeds
    cases done : cut n s with
    | error fault =>
      rw [done] at succeeds
      cases succeeds
    | ok parts =>
      obtain ⟨split, size⟩ := cut_eq_ok_iff.1 done
      exact ⟨parts.1, parts.2, split, by rw [size]; rfl⟩
  · rintro ⟨first, rest, split, size⟩
    have offset : n = first.utf8ByteSize := congrArg String.Pos.Raw.byteIdx size
    rw [cut_eq_ok_iff.2 ⟨split, offset⟩]
    rfl

/-- An offset inside a character. -/
example : cut 1 "é" = .error .slice := by decide

theorem sliceTo_append (first rest : String) :
    sliceTo first.utf8ByteSize (first ++ rest) = .ok first := by
  rw [sliceTo, cut_eq_ok_iff.2 ⟨rfl, rfl⟩]
  rfl

theorem sliceFrom_append (first rest : String) :
    sliceFrom first.utf8ByteSize (first ++ rest) = .ok rest := by
  rw [sliceFrom, cut_eq_ok_iff.2 ⟨rfl, rfl⟩]
  rfl

/-! ## Bytes -/

/-- The bytes of a text. -/
def bytes (s : String) : List UInt8 :=
  s.toByteArray.data.toList

/-- The byte at an offset. -/
def byteAt (s : String) (n : Nat) : Checked UInt8 :=
  match (bytes s)[n]? with
  | some b => .ok b
  | none => .error .index

/-- The byte of an ASCII character. -/
def asciiByte (a : Char) : UInt8 :=
  UInt8.ofNat a.toNat

theorem bytes_append (first rest : String) : bytes (first ++ rest) = bytes first ++ bytes rest := by
  rw [bytes, String.toByteArray_append, ByteArray.data_append, Array.toList_append, bytes, bytes]

theorem length_bytes (s : String) : (bytes s).length = s.utf8ByteSize := rfl

theorem bytes_singleton (c : Char) : bytes (String.singleton c) = String.utf8EncodeChar c := by
  rw [bytes, String.toByteArray_singleton, List.utf8Encode_singleton, List.toList_data_toByteArray]

/-- **A byte is read at the offsets below the size of the text**, and nowhere else. -/
theorem byteAt_isOk_iff (s : String) (n : Nat) :
    (byteAt s n).isOk = true ↔ n < s.utf8ByteSize := by
  rw [byteAt, ← length_bytes]
  cases stored : (bytes s)[n]? with
  | none =>
    have beyond := List.getElem?_eq_none_iff.1 stored
    exact iff_of_false (nomatch ·) (by omega)
  | some b => exact iff_of_true rfl (List.getElem?_eq_some_iff.1 stored).1

/-- An ASCII character is one byte. -/
theorem utf8EncodeChar_ascii (ascii : c.toNat < 128) : String.utf8EncodeChar c = [asciiByte c] :=
  if_pos (Nat.lt_succ_iff.1 ascii)

/-- A character beyond has none of the bytes of ASCII characters. -/
theorem le_of_mem_utf8EncodeChar (beyond : 128 ≤ c.toNat) {b : UInt8}
    (mem : b ∈ String.utf8EncodeChar c) : 128 ≤ b.toNat := by
  have large : ¬ c.val.toNat ≤ 127 := not_le.2 beyond
  simp only [String.utf8EncodeChar, if_neg large] at mem
  -- each byte is a remainder and an offset of at least 128 that fits beside it
  have lifted (v k m : Nat) (positive : 0 < k) (fits : k + m ≤ 256) (high : 128 ≤ m) :
      128 ≤ (UInt8.ofNat (v % k + m)).toNat := by
    have small := Nat.mod_lt v positive
    rw [UInt8.toNat_ofNat', Nat.mod_eq_of_lt (by omega)]
    omega
  split at mem
  · simp only [List.mem_cons, List.not_mem_nil, or_false] at mem
    rcases mem with rfl | rfl <;> exact lifted _ _ _ (by decide) (by decide) (by decide)
  · split at mem
    · simp only [List.mem_cons, List.not_mem_nil, or_false] at mem
      rcases mem with rfl | rfl | rfl <;> exact lifted _ _ _ (by decide) (by decide) (by decide)
    · simp only [List.mem_cons, List.not_mem_nil, or_false] at mem
      rcases mem with rfl | rfl | rfl | rfl <;>
        exact lifted _ _ _ (by decide) (by decide) (by decide)

theorem toNat_asciiByte (ascii : a.toNat < 128) : (asciiByte a).toNat = a.toNat := by
  rw [asciiByte, UInt8.toNat_ofNat']
  omega

theorem asciiByte_inj (ascii : a.toNat < 128) (ascii' : c.toNat < 128)
    (same : asciiByte c = asciiByte a) : c = a := by
  apply Char.ext
  apply UInt32.toNat_inj.1
  have bytes := congrArg UInt8.toNat same
  rwa [toNat_asciiByte ascii, toNat_asciiByte ascii'] at bytes

/-- The byte of an ASCII character is part of no other character. -/
theorem eq_of_mem_utf8EncodeChar (ascii : a.toNat < 128)
    (mem : asciiByte a ∈ String.utf8EncodeChar c) : c = a := by
  rcases Nat.lt_or_ge c.toNat 128 with ascii' | beyond
  · rw [utf8EncodeChar_ascii ascii', List.mem_singleton] at mem
    exact asciiByte_inj ascii ascii' mem.symm
  · have high := le_of_mem_utf8EncodeChar beyond mem
    rw [toNat_asciiByte ascii] at high
    omega

/-! ## Where an ASCII character stands -/

/-- The offsets at which the byte of an ASCII character stands. -/
def offsets (a : Char) (s : String) : List Nat :=
  (bytes s).idxsOf (asciiByte a)

theorem offsets_singleton (ascii : a.toNat < 128) (c : Char) :
    offsets a (String.singleton c) = if c = a then [0] else [] := by
  rw [offsets, bytes_singleton]
  split
  · rename_i same
    rw [same, utf8EncodeChar_ascii ascii]
    simp [List.idxsOf]
  · rename_i other
    rw [List.idxsOf, List.findIdxs_eq_nil_iff]
    intro b mem
    rw [beq_eq_false_iff_ne]
    rintro rfl
    exact other (eq_of_mem_utf8EncodeChar ascii mem)

theorem offsets_append (a : Char) (first rest : String) :
    offsets a (first ++ rest) =
      offsets a first ++ (offsets a rest).map (· + first.utf8ByteSize) := by
  rw [offsets, bytes_append, List.idxsOf, List.findIdxs_append, Nat.zero_add, length_bytes]
  exact congrArg _ List.findIdxs_start

theorem offsets_eq_nil (ascii : a.toNat < 128) (plain : a ∉ s.toList) : offsets a s = [] := by
  obtain ⟨cs, rfl⟩ := exists_ofList s
  rw [String.toList_ofList] at plain
  induction cs with
  | nil => rfl
  | cons c cs none_left =>
    rw [List.mem_cons, not_or] at plain
    rw [ofList_cons, offsets_append, offsets_singleton ascii, if_neg (Ne.symm plain.1),
      none_left plain.2, List.map_nil, List.append_nil]

/-- With none before it, a character stands first where the text before it ends. -/
theorem head?_offsets (ascii : a.toNat < 128) (plain : a ∉ first.toList) (rest : String) :
    (offsets a (first ++ String.singleton a ++ rest)).head? = some first.utf8ByteSize := by
  rw [offsets_append, offsets_append, offsets_eq_nil ascii plain, offsets_singleton ascii,
    if_pos rfl]
  simp

/-- With none behind it, a character stands last where the text before it ends. -/
theorem getLast?_offsets (ascii : a.toNat < 128) (first : String) (plain : a ∉ rest.toList) :
    (offsets a (first ++ String.singleton a ++ rest)).getLast? = some first.utf8ByteSize := by
  rw [offsets_append, offsets_append, offsets_eq_nil ascii plain, offsets_singleton ascii,
    if_pos rfl]
  simp

/-- What follows the last of an ASCII character, if there is one. -/
def afterLast (a : Char) (s : String) : Checked (Option String) :=
  match (offsets a s).getLast? with
  | none => .ok none
  | some n => (sliceFrom (n + 1) s).map some

/-- The text from the first of an ASCII character on, if there is one. -/
def fromFirst (a : Char) (s : String) : Checked (Option String) :=
  match (offsets a s).head? with
  | none => .ok none
  | some n => (sliceFrom n s).map some

theorem utf8ByteSize_ascii (ascii : a.toNat < 128) : (String.singleton a).utf8ByteSize = 1 := by
  rw [← length_bytes, bytes_singleton, utf8EncodeChar_ascii ascii, List.length_singleton]

theorem afterLast_eq (ascii : a.toNat < 128) (s : String) :
    afterLast a s = .ok (afterLast? a s) := by
  by_cases mem : a ∈ s.toList
  · obtain ⟨front, back, split, plain⟩ := exists_last mem
    have whole := eq_ofList_append split
    have plain : a ∉ (String.ofList back).toList := by rwa [String.toList_ofList]
    have found : afterLast? a s = some (String.ofList back) :=
      afterLast?_eq_some_iff.2 ⟨_, whole, plain⟩
    have size : (String.ofList front).utf8ByteSize + 1 =
        (String.ofList front ++ String.singleton a).utf8ByteSize := by
      rw [String.utf8ByteSize_append, utf8ByteSize_ascii ascii]
    rw [found, afterLast, whole, getLast?_offsets ascii _ plain]
    dsimp only
    rw [size, sliceFrom_append]
    rfl
  · rw [afterLast, offsets_eq_nil ascii mem, afterLast?, if_neg mem]
    rfl

theorem fromFirst_eq (ascii : a.toNat < 128) (s : String) :
    fromFirst a s = .ok (fromFirst? a s) := by
  by_cases mem : a ∈ s.toList
  · obtain ⟨front, back, split, plain⟩ := List.eq_append_cons_of_mem mem
    have whole := eq_ofList_append split
    have plain : a ∉ (String.ofList front).toList := by rwa [String.toList_ofList]
    have found : fromFirst? a s = some (String.singleton a ++ String.ofList back) :=
      fromFirst?_eq_some_iff.2 ⟨_, _, whole, plain, rfl⟩
    rw [found, fromFirst, whole, head?_offsets ascii plain]
    dsimp only
    rw [String.append_assoc, sliceFrom_append]
    rfl
  · have nothing : fromFirst? a s = none := by
      rw [Option.eq_none_iff_forall_not_mem]
      intro tail found
      obtain ⟨lead, rest, rfl, _⟩ := fromFirst?_eq_some_iff.1 found
      simp at mem
    rw [fromFirst, offsets_eq_nil ascii mem, nothing]
    rfl

end Text

/-! ## Shorter paths -/

namespace Slash

open Text

variable {path : String}

/-- Where the `n`th slash stands: at the end if there are fewer. -/
def nthSlash (n : Nat) (path : String) : Nat :=
  ((offsets '/' path)[n - 1]?).getD path.utf8ByteSize

/-- Where the last slash stands: at the start if there is none. -/
def lastSlash (path : String) : Nat :=
  ((offsets '/' path).getLast?).getD 0

theorem nthSlash_eq (n : Nat) (path : String) : nthSlash n path = nthOffset n path := by
  obtain ⟨cs, rfl⟩ := exists_ofList path
  rw [nthOffset, cutAtNth, String.toList_ofList]
  -- what stands behind the first character stands behind its bytes
  have behind (k : Nat) (rest : String) (c : Char) :
      (((offsets '/' rest).map (· + c.utf8Size))[k]?).getD (c.utf8Size + rest.utf8ByteSize) =
        c.utf8Size + ((offsets '/' rest)[k]?).getD rest.utf8ByteSize := by
    rw [List.getElem?_map]
    cases (offsets '/' rest)[k]? with
    | none => rfl
    | some offset => exact Nat.add_comm ..
  induction cs generalizing n with
  | nil => rfl
  | cons c cs same =>
    rw [nthSlash, ofList_cons, offsets_append, offsets_singleton (by decide),
      String.utf8ByteSize_append, String.utf8ByteSize_singleton]
    by_cases slash : c = '/'
    · subst slash
      rcases n with _ | _ | n
      · rfl
      · rfl
      · have later : upToNth (n + 2) ('/' :: cs) = '/' :: upToNth (n + 1) cs := rfl
        rw [later, ofList_cons, String.utf8ByteSize_append, String.utf8ByteSize_singleton,
          ← same (n + 1), if_pos rfl, List.singleton_append]
        exact behind n _ '/'
    · have later : upToNth n (c :: cs) = c :: upToNth n cs := by
        rw [upToNth.eq_def]
        exact if_neg slash
      rw [later, ofList_cons, String.utf8ByteSize_append, String.utf8ByteSize_singleton,
        ← same n, if_neg slash, List.nil_append, behind]
      rfl

theorem lastSlash_eq (path : String) : lastSlash path = lastOffset path := by
  rw [lastOffset, parent]
  by_cases slash : '/' ∈ path.toList
  · obtain ⟨front, back, split, plain⟩ := exists_last slash
    have whole := eq_ofList_append split
    have plain' : '/' ∉ (String.ofList back).toList := by rwa [String.toList_ofList]
    rw [split, upToLast_append front plain, lastSlash, whole, getLast?_offsets (by decide) _ plain']
    rfl
  · rw [lastSlash, offsets_eq_nil (by decide) slash, upToLast_of_not_mem slash]
    rfl

end Slash

end VirtualHosting
