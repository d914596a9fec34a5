/-
# Text.Hex — hexadecimal digits

* `value_lt`: a hexadecimal digit stands for a number below sixteen.
-/

namespace VirtualHosting.Text.Hex

set_option autoImplicit false

def isDigit (c : Char) : Bool :=
  c.isDigit || ('a' ≤ c && c ≤ 'f') || ('A' ≤ c && c ≤ 'F')

/-- The number a hexadecimal digit stands for. -/
def value (c : Char) : Nat :=
  if c.isDigit then c.toNat - '0'.toNat
  else if 'a' ≤ c then c.toNat - 'a'.toNat + 10
  else c.toNat - 'A'.toNat + 10

/-- The number that digits spell in a base. -/
def ofDigits (base : Nat) (ds : List Char) : Nat :=
  ds.foldl (fun n c => n * base + value c) 0

theorem value_lt (c : Char) (h : isDigit c = true) : value c < 16 := by
  simp only [isDigit, Char.isDigit, Bool.or_eq_true, Bool.and_eq_true, decide_eq_true_eq,
    ge_iff_le, UInt32.le_iff_toNat_le, Char.le_def] at h
  have zero : ('0' : Char).toNat = 48 := rfl
  have a : ('a' : Char).toNat = 97 := rfl
  have A : ('A' : Char).toNat = 65 := rfl
  have code : c.toNat = c.val.toNat := rfl
  simp only [value, Char.isDigit, Bool.and_eq_true, decide_eq_true_eq, ge_iff_le,
    UInt32.le_iff_toNat_le, Char.le_def, zero, a, A, code]
  simp at h
  rcases h with (h | h) | h
  · split
    · omega
    · rename_i no
      exact absurd (by simpa using h) no
  · split
    · rename_i yes; simp at yes; omega
    · split
      · omega
      · rename_i no; simp at no; omega
  · split
    · rename_i yes; simp at yes; omega
    · split
      · rename_i yes; simp at yes; omega
      · omega

end VirtualHosting.Text.Hex
