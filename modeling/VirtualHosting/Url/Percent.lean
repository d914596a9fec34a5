/-
# Url.Percent — characters written as their bytes

A character that must not stand in a part of a URL is written byte by byte, each
byte as a percent sign and two hexadecimal digits. Which characters those are
depends on the part; characters beyond ASCII and controls always are.

* `encode_append`: a text is encoded character by character.
-/
import VirtualHosting.Text.Hex

namespace VirtualHosting.Url

set_option autoImplicit false

/-- The upper-case hexadecimal digit of a number below sixteen. -/
def upperHex (n : Nat) : Char :=
  if n < 10 then Char.ofNat ('0'.toNat + n) else Char.ofNat ('A'.toNat + (n - 10))

/-- One byte in encoded form. -/
def encodeByte (b : UInt8) : List Char :=
  ['%', upperHex (b.toNat / 16), upperHex (b.toNat % 16)]

/-- Controls and everything beyond ASCII. -/
def isControl (c : Char) : Bool :=
  c.toNat < 0x20 || c.toNat ≥ 0x7F

/-- What must not stand in a fragment. -/
def inFragmentSet (c : Char) : Bool :=
  isControl c || c ∈ [' ', '"', '<', '>', '\x60']

/-- What must not stand in a path. -/
def inPathSet (c : Char) : Bool :=
  inFragmentSet c || c ∈ ['#', '?', '\x7b', '\x7d']

/-- What must not stand in a user name or password. -/
def inUserSet (c : Char) : Bool :=
  inPathSet c || c ∈ ['/', ':', ';', '=', '@', '[', '\\', ']', '^', '|']

/-- What must not stand in a query. -/
def inQuerySet (special : Bool) (c : Char) : Bool :=
  isControl c || c ∈ [' ', '"', '#', '<', '>'] || (special && c == '\'')

/-- Encodes the characters of a set. -/
def encode (set : Char → Bool) (cs : List Char) : List Char :=
  cs.flatMap fun c => if set c then (String.utf8EncodeChar c).flatMap encodeByte else [c]

/-- Decodes a text to the bytes it stands for. A percent sign without two digits
after it stands for itself. -/
def decodeBytes : List UInt8 → List UInt8
  | [] => []
  | 37 :: a :: b :: rest =>
    let x := Char.ofNat a.toNat
    let y := Char.ofNat b.toNat
    if Text.Hex.isDigit x && Text.Hex.isDigit y then
      UInt8.ofNat (Text.Hex.value x * 16 + Text.Hex.value y) :: decodeBytes rest
    else 37 :: decodeBytes (a :: b :: rest)
  | c :: rest => c :: decodeBytes rest

/-- Decodes a text, if the bytes are those of one. -/
def decode? (cs : List Char) : Option (List Char) :=
  let bytes := decodeBytes (cs.flatMap String.utf8EncodeChar)
  (String.fromUTF8? ⟨bytes.toArray⟩).map (·.toList)

theorem encode_append (set : Char → Bool) (first second : List Char) :
    encode set (first ++ second) = encode set first ++ encode set second :=
  List.flatMap_append

end VirtualHosting.Url
