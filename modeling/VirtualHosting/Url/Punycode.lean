/-
# Url.Punycode — labels beyond ASCII in ASCII letters

A label is written as its ASCII characters, a hyphen, and the other characters in
order of their codes, each as the distance from the last one in a number of
variable length. The thresholds that say where such a number ends adapt to the
numbers before it.

* `digit_lt`: what a digit stands for is below the base.
-/

namespace VirtualHosting.Url.Punycode

set_option autoImplicit false

def base : Nat := 36
def least : Nat := 1
def most : Nat := 26
def initialBias : Nat := 72
def initialCode : Nat := 128

/-- The bias that suits a distance once halved by the damping. -/
def settleBias (delta : Nat) (k : Nat) : Nat :=
  if delta > ((base - least) * most) / 2 then
    settleBias (delta / (base - least)) (k + base)
  else k + ((base - least + 1) * delta) / (delta + 38)
termination_by delta
decreasing_by
  rename_i large
  simp only [base, least, most] at large ⊢
  omega

/-- The bias after a distance: it is damped at the first, and spread over the
characters there are by then. -/
def adapt (delta count : Nat) (first : Bool) : Nat :=
  let damped := if first then delta / 700 else delta / 2
  settleBias (damped + damped / count) 0

/-- The threshold of the digit at position `k`. -/
def threshold (k bias : Nat) : Nat :=
  if k ≤ bias then least else if k ≥ bias + most then most else k - bias

def digit (n : Nat) : Char :=
  if n < 26 then Char.ofNat ('a'.toNat + n) else Char.ofNat ('0'.toNat + (n - 26))

def digitValue? (c : Char) : Option Nat :=
  if 'a' ≤ c && c ≤ 'z' then some (c.toNat - 'a'.toNat)
  else if 'A' ≤ c && c ≤ 'Z' then some (c.toNat - 'A'.toNat)
  else if '0' ≤ c && c ≤ '9' then some (c.toNat - '0'.toNat + 26)
  else none

/-! ## Writing -/

/-- The digits of a distance, from position `k` on. -/
def encodeDistance (q k bias : Nat) : List Char :=
  let t := threshold k bias
  if q < t then [digit q]
  else if base ≤ t then []
  else digit (t + (q - t) % (base - t)) ::
    if (q - t) / (base - t) < q then encodeDistance ((q - t) / (base - t)) (k + base) bias else []
termination_by q

/-- What is left to write: the characters so far, the distance and the bias. -/
structure Writing where
  out : List Char
  delta : Nat
  bias : Nat
  count : Nat

/-- Writes every occurrence of the code `n`. -/
def writeCode (n basic : Nat) (label : List Char) (w : Writing) : Writing :=
  label.foldl (fun w c =>
    if c.toNat < n then { w with delta := w.delta + 1 }
    else if c.toNat = n then
      { out := w.out ++ encodeDistance w.delta base w.bias
        delta := 0
        bias := adapt w.delta (w.count + 1) (w.count == basic)
        count := w.count + 1 }
    else w) w

/-- Writes a label. -/
def encode (label : List Char) : List Char :=
  let ascii := label.filter (·.toNat < initialCode)
  let codes := ((label.filter (·.toNat ≥ initialCode)).map (·.toNat)).mergeSort.eraseDups
  let start : Writing :=
    { out := if ascii.isEmpty then [] else ascii ++ ['-']
      delta := 0, bias := initialBias, count := ascii.length }
  let step : Writing × Nat → Nat → Writing × Nat := fun (w, last) n =>
    let reached := { w with delta := w.delta + (n - last) * (w.count + 1) }
    let written := writeCode n ascii.length label reached
    ({ written with delta := written.delta + 1 }, n + 1)
  (codes.foldl step (start, initialCode)).1.out

/-! ## Reading -/

/-- Distances and weights are less than this. -/
def wordSize : Nat := 0x100000000

/-- Reads a distance from position `k` on, added to `i` with weight `w`. -/
def decodeDistance? (bias : Nat) : List Char → Nat → Nat → Nat → Option (Nat × List Char)
  | [], _, _, _ => none
  | c :: rest, i, w, k => do
    let d ← digitValue? c
    let i := i + d * w
    let t := threshold k bias
    if i ≥ wordSize then none
    else if d < t then some (i, rest)
    else if w * (base - t) ≥ wordSize then none
    else decodeDistance? bias rest i (w * (base - t)) (k + base)

/-- Reads distances and puts their characters in, for at most `fuel` of them. -/
def insertAll? : Nat → List Char → List Char → Nat → Nat → Nat → Option (List Char)
  | _, [], out, _, _, _ => some out
  | 0, _, _, _, _, _ => none
  | fuel + 1, rest, out, n, i, bias => do
    let (position, rest) ← decodeDistance? bias rest i 1 base
    let size := out.length + 1
    let code := n + position / size
    if code.isValidChar then
      let place := position % size
      insertAll? fuel rest (out.take place ++ Char.ofNat code :: out.drop place)
        code (place + 1) (adapt (position - i) size (i == 0))
    else none

/-- Reads a label. A hyphen parts its ASCII characters from the rest, so there are
some before it. -/
def decode? (label : List Char) : Option (List Char) :=
  let reversed := label.reverse
  let tail := (reversed.takeWhile (· != '-')).reverse
  let ascii := (reversed.dropWhile (· != '-')).tail.reverse
  if '-' ∈ label && ascii.isEmpty then none
  else insertAll? tail.length tail ascii initialCode 0 initialBias

theorem digit_lt (c : Char) (n : Nat) (h : digitValue? c = some n) : n < base := by
  have code : c.toNat = c.val.toNat := rfl
  have a : ('a' : Char).toNat = 97 := rfl
  have A : ('A' : Char).toNat = 65 := rfl
  have zero : ('0' : Char).toNat = 48 := rfl
  simp only [digitValue?, a, A, zero] at h
  split at h
  · rename_i low
    simp [Char.le_def, UInt32.le_iff_toNat_le] at low
    simp only [Option.some.injEq] at h
    simp only [base]
    omega
  · split at h
    · rename_i up
      simp [Char.le_def, UInt32.le_iff_toNat_le] at up
      simp only [Option.some.injEq] at h
      simp only [base]
      omega
    · split at h
      · rename_i dig
        simp [Char.le_def, UInt32.le_iff_toNat_le] at dig
        simp only [Option.some.injEq] at h
        simp only [base]
        omega
      · simp at h

end VirtualHosting.Url.Punycode
