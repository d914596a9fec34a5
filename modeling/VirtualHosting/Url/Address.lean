/-
# Url.Address — numeric hosts

A host whose last label is a number is an IPv4 address, in up to four parts that
are decimal, octal after `0` or hexadecimal after `0x`; the last part stands for
all bytes that are left. A host in brackets is an IPv6 address, whose longest run
of zero pieces may be left out once.

* `length_zeroRun_le`: a run of zeros is no longer than the pieces.
-/
import VirtualHosting.Text.Hex
import VirtualHosting.Text.Slice

namespace VirtualHosting.Url

set_option autoImplicit false

def decimal (n : Nat) : List Char := Nat.toDigits 10 n

/-! ## IPv4 -/

/-- Reads a part of an IPv4 address, of any size. -/
def ipv4Part? (cs : List Char) : Option Nat :=
  let digitsIn (base : Nat) (accepts : Char → Bool) (ds : List Char) : Option Nat :=
    if ds.all accepts then some (Text.Hex.ofDigits base ds) else none
  match cs with
  | [] => none
  | '0' :: 'x' :: ds | '0' :: 'X' :: ds => digitsIn 16 Text.Hex.isDigit ds
  | '0' :: d :: ds => digitsIn 8 (fun c => '0' ≤ c && c ≤ '7') (d :: ds)
  | ds => digitsIn 10 Char.isDigit ds

/-- The labels of a domain, an empty one at its end left out. -/
def labels (domain : List Char) : List (List Char) :=
  let all := Text.splitAt '.' domain
  if all.length > 1 && all.getLast? == some [] then all.dropLast else all

/-- Whether the last label of a domain is a number. -/
def endsInNumber (domain : List Char) : Bool :=
  match (labels domain).getLast? with
  | some last => (!last.isEmpty && last.all Char.isDigit) || (ipv4Part? last).isSome
  | none => false

/-- The address that these parts make up, the last one filling what is left. -/
def ofParts : List Nat → Option Nat
  | [] => none
  | parts =>
    let leading := parts.dropLast
    let last := parts.getLastD 0
    if parts.length ≤ 4 && leading.all (· ≤ 255) && last < Nat.pow 256 (4 - leading.length) then
      some (leading.zipIdx.foldl (fun sum (part, i) => sum + part * Nat.pow 256 (3 - i)) last)
    else none

/-- Reads an IPv4 address. -/
def ipv4? (domain : List Char) : Option Nat := do
  ofParts (← (labels domain).mapM ipv4Part?)

/-- An IPv4 address as it is written. -/
def ipv4Text (address : Nat) : List Char :=
  List.intercalate ['.'] ([3, 2, 1, 0].map fun i => decimal (address / Nat.pow 256 i % 256))

/-! ## IPv6 -/

/-- Reads a piece of an IPv6 address, of up to four digits. -/
def ipv6Piece (cs : List Char) : Nat × List Char :=
  let ds := (cs.take 4).takeWhile Text.Hex.isDigit
  (Text.Hex.ofDigits 16 ds, cs.drop ds.length)

/-- Reads a byte of the IPv4 address at the end of an IPv6 address. -/
def trailingByte? (cs : List Char) : Option (Nat × List Char) :=
  let ds := cs.takeWhile Char.isDigit
  let n := Text.Hex.ofDigits 10 ds
  if ds.isEmpty || n > 255 || (ds.length > 1 && ds.head? == some '0') then none
  else some (n, cs.drop ds.length)

/-- Reads the IPv4 address at the end of an IPv6 address, as two pieces. -/
def trailingPieces? (cs : List Char) : Option (List Nat) := do
  let bytes ← (Text.splitAt '.' cs).mapM fun part => do
    let (n, rest) ← trailingByte? part
    if rest.isEmpty then some n else none
  match bytes with
  | [a, b, c, d] => some [a * 256 + b, c * 256 + d]
  | _ => none

/-- Reads the pieces of one side of the gap: a piece, then a colon and more. -/
def ipv6Pieces? : Nat → List Char → Option (List Nat)
  | 0, _ => none
  | n + 1, cs =>
    let (piece, rest) := ipv6Piece cs
    match rest with
    | '.' :: _ => trailingPieces? cs
    | _ =>
      if rest.length = cs.length then none
      else match rest with
        | [] => some [piece]
        | ':' :: rest => do some (piece :: (← ipv6Pieces? n rest))
        | _ => none

/-- Splits at the first two colons in a row. -/
def splitGap : List Char → Option (List Char × List Char)
  | ':' :: ':' :: rest => some ([], rest)
  | c :: rest => (splitGap rest).map fun (before, after) => (c :: before, after)
  | [] => none

/-- Reads the eight pieces of an IPv6 address. -/
def ipv6? (cs : List Char) : Option (List Nat) :=
  let side (cs : List Char) : Option (List Nat) := if cs.isEmpty then some [] else ipv6Pieces? 8 cs
  match splitGap cs with
  | none => do
    let pieces ← side cs
    if pieces.length = 8 then some pieces else none
  | some (before, after) => do
    let left ← side before
    let right ← side after
    if '.' ∉ before && left.length + right.length ≤ 7 then
      some (left ++ List.replicate (8 - left.length - right.length) 0 ++ right)
    else none

/-- The length of the run of zeros at the start of some pieces. -/
def zeroRun (pieces : List Nat) : Nat :=
  (pieces.takeWhile (· == 0)).length

/-- The start and length of the first longest run of zeros, if one is longer than
a piece. -/
def longestGap (pieces : List Nat) : Option (Nat × Nat) :=
  let runs := (List.range pieces.length).map fun i => (i, zeroRun (pieces.drop i))
  let best := runs.foldl (fun best run => if run.2 > best.2 then run else best) (0, 0)
  if best.2 > 1 then some best else none

/-- An IPv6 address as it is written, without its brackets. -/
def ipv6Text (pieces : List Nat) : List Char :=
  let written (ps : List Nat) : List Char :=
    List.intercalate [':'] (ps.map fun p => Nat.toDigits 16 p)
  match longestGap pieces with
  | none => written pieces
  | some (start, length) =>
    written (pieces.take start) ++ [':', ':'] ++ written (pieces.drop (start + length))

theorem length_zeroRun_le (pieces : List Nat) : zeroRun pieces ≤ pieces.length :=
  (List.takeWhile_sublist _).length_le

end VirtualHosting.Url
