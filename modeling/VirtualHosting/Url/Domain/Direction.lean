/-
# Url.Domain.Direction — labels written from right to left

Some scripts are written from right to left and others from left to right, and
digits and signs follow the text around them. In a domain name with a label of the
first kind every label has to read the same wherever it is shown: it starts with a
letter, keeps to the direction of that letter, and ends in a letter or digit.

* `not_isRightward_ascii`: an ASCII name has no label from right to left.
-/
import VirtualHosting.Text.Marks

namespace VirtualHosting.Url.Domain

set_option autoImplicit false

open Text (CodeSet)

/-! ## Characters -/

/-- Letters that are written from right to left. -/
def rightToLeft : CodeSet := ⟨#[
  0x590, 0x591, 0x5BE, 0x5BF, 0x5C0, 0x5C1, 0x5C3, 0x5C4, 0x5C6, 0x5C7, 0x5C8, 0x600, 0x608, 0x609,
  0x60B, 0x60C, 0x60D, 0x60E, 0x61B, 0x64B, 0x66D, 0x670, 0x671, 0x6D6, 0x6E5, 0x6E7, 0x6EE, 0x6F0,
  0x6FA, 0x711, 0x712, 0x730, 0x74B, 0x7A6, 0x7B1, 0x7EB, 0x7F4, 0x7F6, 0x7FA, 0x7FD, 0x7FE, 0x816,
  0x81A, 0x81B, 0x824, 0x825, 0x828, 0x829, 0x82E, 0x859, 0x85C, 0x890, 0x892, 0x897, 0x8A0, 0x8CA,
  0x200F, 0x2010, 0xFB1D, 0xFB1E, 0xFB1F, 0xFB29, 0xFB2A, 0xFBC3, 0xFBD3, 0xFD3E, 0xFD50, 0xFD90,
  0xFD92, 0xFDC8, 0xFDF0, 0xFDFD, 0xFE70, 0xFEFF, 0x10800, 0x1091F, 0x10920, 0x10A01, 0x10A04,
  0x10A05, 0x10A07, 0x10A0C, 0x10A10, 0x10A38, 0x10A3B, 0x10A3F, 0x10A40, 0x10AE5, 0x10AE7, 0x10B39,
  0x10B40, 0x10D24, 0x10D28, 0x10D30, 0x10D3A, 0x10D40, 0x10D4A, 0x10D69, 0x10D6F, 0x10E60, 0x10E7F,
  0x10EAB, 0x10EAD, 0x10ED0, 0x10ED9, 0x10EFA, 0x10F00, 0x10F46, 0x10F51, 0x10F82, 0x10F86, 0x11000,
  0x1E800, 0x1E8D0, 0x1E8D7, 0x1E944, 0x1E94B, 0x1EEF0, 0x1EEF2, 0x1F000]⟩

/-- Digits that are used in text from right to left. -/
def arabicNumbers : CodeSet := ⟨#[
  0x600, 0x606, 0x660, 0x66A, 0x66B, 0x66D, 0x6DD, 0x6DE, 0x890, 0x892, 0x8E2, 0x8E3, 0x10D30,
  0x10D3A, 0x10D40, 0x10D4A, 0x10E60, 0x10E7F]⟩

/-- Digits that are used in text of either direction. -/
def europeanNumbers : CodeSet := ⟨#[
  0x30, 0x3A, 0xB2, 0xB4, 0xB9, 0xBA, 0x6F0, 0x6FA, 0x2070, 0x2071, 0x2074, 0x207A, 0x2080, 0x208A,
  0x2488, 0x249C, 0xFF10, 0xFF1A, 0x102E1, 0x102FC, 0x1CCF0, 0x1CCFA, 0x1D7CE, 0x1D800, 0x1F100,
  0x1F10B, 0x1FBF0, 0x1FBFA]⟩

/-- Signs that follow the direction of the text around them. -/
def neutral : CodeSet := ⟨#[
  0x0, 0x9, 0xE, 0x1C, 0x21, 0x30, 0x3A, 0x41, 0x5B, 0x61, 0x7B, 0x85, 0x86, 0xAA, 0xAB, 0xB2, 0xB4,
  0xB5, 0xB6, 0xB9, 0xBB, 0xC0, 0xD7, 0xD8, 0xF7, 0xF8, 0x2B9, 0x2BB, 0x2C2, 0x2D0, 0x2D2, 0x2E0,
  0x2E5, 0x2EE, 0x2EF, 0x300, 0x374, 0x376, 0x37E, 0x37F, 0x384, 0x386, 0x387, 0x388, 0x3F6, 0x3F7,
  0x58A, 0x58B, 0x58D, 0x590, 0x606, 0x608, 0x609, 0x60B, 0x60C, 0x60D, 0x60E, 0x610, 0x66A, 0x66B,
  0x6DE, 0x6DF, 0x6E9, 0x6EA, 0x7F6, 0x7FA, 0x9F2, 0x9F4, 0x9FB, 0x9FC, 0xAF1, 0xAF2, 0xBF3, 0xBFB,
  0xC78, 0xC7F, 0xE3F, 0xE40, 0xF3A, 0xF3E, 0x1390, 0x139A, 0x1400, 0x1401, 0x169B, 0x169D, 0x17DB,
  0x17DC, 0x17F0, 0x17FA, 0x1800, 0x180B, 0x180E, 0x180F, 0x1940, 0x1941, 0x1944, 0x1946, 0x19DE,
  0x1A00, 0x1FBD, 0x1FBE, 0x1FBF, 0x1FC2, 0x1FCD, 0x1FD0, 0x1FDD, 0x1FE0, 0x1FED, 0x1FF0, 0x1FFD,
  0x1FFF, 0x200B, 0x200E, 0x2010, 0x2028, 0x202F, 0x205F, 0x2060, 0x2066, 0x206A, 0x2070, 0x207A,
  0x207F, 0x208A, 0x208F, 0x20A0, 0x20D0, 0x2100, 0x2102, 0x2103, 0x2107, 0x2108, 0x210A, 0x2114,
  0x2115, 0x2116, 0x2119, 0x211E, 0x2124, 0x2125, 0x2126, 0x2127, 0x2128, 0x2129, 0x212A, 0x212E,
  0x212F, 0x213A, 0x213C, 0x2140, 0x2145, 0x214A, 0x214E, 0x2150, 0x2160, 0x2189, 0x218C, 0x2190,
  0x2336, 0x237B, 0x2395, 0x2396, 0x242A, 0x2440, 0x244B, 0x2460, 0x2488, 0x24EA, 0x26AC, 0x26AD,
  0x2800, 0x2900, 0x2B74, 0x2B76, 0x2C00, 0x2CE5, 0x2CEB, 0x2CF9, 0x2D00, 0x2E00, 0x2E5E, 0x2E80,
  0x2E9A, 0x2E9B, 0x2EF4, 0x2F00, 0x2FD6, 0x2FF0, 0x3000, 0x3001, 0x3005, 0x3008, 0x3021, 0x3030,
  0x3031, 0x3036, 0x3038, 0x303D, 0x3040, 0x309B, 0x309D, 0x30A0, 0x30A1, 0x30FB, 0x30FC, 0x31C0,
  0x31E6, 0x31EF, 0x31F0, 0x321D, 0x321F, 0x3250, 0x3260, 0x327C, 0x327F, 0x32B1, 0x32C0, 0x32CC,
  0x32D0, 0x3377, 0x337B, 0x33DE, 0x33E0, 0x33FF, 0x3400, 0x4DC0, 0x4E00, 0xA490, 0xA4C7, 0xA60D,
  0xA610, 0xA673, 0xA674, 0xA67E, 0xA680, 0xA700, 0xA722, 0xA788, 0xA789, 0xA828, 0xA82C, 0xA838,
  0xA83A, 0xA874, 0xA878, 0xAB6A, 0xAB6C, 0xFB29, 0xFB2A, 0xFBC3, 0xFBD3, 0xFD3E, 0xFD50, 0xFD90,
  0xFD92, 0xFDC8, 0xFDF0, 0xFDFD, 0xFE00, 0xFE10, 0xFE1A, 0xFE30, 0xFE53, 0xFE54, 0xFE67, 0xFE68,
  0xFE6C, 0xFEFF, 0xFF00, 0xFF01, 0xFF10, 0xFF1A, 0xFF21, 0xFF3B, 0xFF41, 0xFF5B, 0xFF66, 0xFFE0,
  0xFFE7, 0xFFE8, 0xFFEF, 0xFFF0, 0x10000, 0x10101, 0x10102, 0x10140, 0x1018D, 0x10190, 0x1019D,
  0x101A0, 0x101A1, 0x1091F, 0x10920, 0x10B39, 0x10B40, 0x10D6E, 0x10D6F, 0x10ED0, 0x10ED9, 0x11052,
  0x11066, 0x11660, 0x1166D, 0x11FD5, 0x11FF2, 0x16FE2, 0x16FE3, 0x1BCA0, 0x1BCA4, 0x1CC00, 0x1CCD6,
  0x1CCFA, 0x1CCFD, 0x1CD00, 0x1CEB4, 0x1CEBA, 0x1CED1, 0x1CEE0, 0x1CEF1, 0x1D173, 0x1D17B, 0x1D1E9,
  0x1D1EB, 0x1D200, 0x1D242, 0x1D245, 0x1D246, 0x1D300, 0x1D357, 0x1D6C1, 0x1D6C2, 0x1D6DB, 0x1D6DC,
  0x1D6FB, 0x1D6FC, 0x1D715, 0x1D716, 0x1D735, 0x1D736, 0x1D74F, 0x1D750, 0x1D76F, 0x1D770, 0x1D789,
  0x1D78A, 0x1D7A9, 0x1D7AA, 0x1D7C3, 0x1D7C4, 0x1E2FF, 0x1E300, 0x1EEF0, 0x1EEF2, 0x1F000, 0x1F02C,
  0x1F030, 0x1F094, 0x1F0A0, 0x1F0AF, 0x1F0B1, 0x1F0C0, 0x1F0C1, 0x1F0D0, 0x1F0D1, 0x1F0F6, 0x1F10B,
  0x1F110, 0x1F12F, 0x1F130, 0x1F16A, 0x1F170, 0x1F1AD, 0x1F1AE, 0x1F260, 0x1F266, 0x1F300, 0x1F6D9,
  0x1F6DC, 0x1F6ED, 0x1F6F0, 0x1F6FD, 0x1F700, 0x1F7DA, 0x1F7E0, 0x1F7EC, 0x1F7F0, 0x1F7F1, 0x1F800,
  0x1F80C, 0x1F810, 0x1F848, 0x1F850, 0x1F85A, 0x1F860, 0x1F888, 0x1F890, 0x1F8AE, 0x1F8B0, 0x1F8BC,
  0x1F8C0, 0x1F8C2, 0x1F8D0, 0x1F8D9, 0x1F900, 0x1FA58, 0x1FA60, 0x1FA6E, 0x1FA70, 0x1FA7D, 0x1FA80,
  0x1FA8B, 0x1FA8E, 0x1FAC7, 0x1FAC8, 0x1FAC9, 0x1FACD, 0x1FADD, 0x1FADF, 0x1FAEB, 0x1FAEF, 0x1FAF9,
  0x1FB00, 0x1FB93, 0x1FB94, 0x1FBF0, 0x1FBFA, 0x1FBFB, 0x1FFFE, 0x20000, 0x2FFFE, 0x30000, 0x3FFFE,
  0x40000, 0x4FFFE, 0x50000, 0x5FFFE, 0x60000, 0x6FFFE, 0x70000, 0x7FFFE, 0x80000, 0x8FFFE, 0x90000,
  0x9FFFE, 0xA0000, 0xAFFFE, 0xB0000, 0xBFFFE, 0xC0000, 0xCFFFE, 0xD0000, 0xDFFFE, 0xE0100, 0xE01F0,
  0xE1000, 0xEFFFE, 0xF0000, 0xFFFFE, 0x100000, 0x10FFFE]⟩

/-- How a character takes part in the direction of a text. -/
inductive Direction where
  /-- It is written from left to right. -/
  | left
  /-- It is written from right to left. -/
  | right
  | arabicNumber
  | europeanNumber
  | neutral
  /-- It is a mark on the character before it. -/
  | mark
  deriving DecidableEq, Repr

/-- Marks that are letters in respect of direction. -/
def isLetterlikeMark (c : Char) : Bool :=
  c.toNat ∈ [0xCBF, 0xCC6, 0x11A07, 0x11A08, 0x11C3F]

/-- How a character takes part in the direction of a text. -/
def directionOf (c : Char) : Direction :=
  if rightToLeft.contains c then .right
  else if arabicNumbers.contains c then .arabicNumber
  else if europeanNumbers.contains c then .europeanNumber
  else if neutral.contains c then .neutral
  else if Text.isNonspacingMark c && !isLetterlikeMark c then .mark
  else .left

/-- Whether a character can only stand in a text from right to left. -/
def isRightward (c : Char) : Bool :=
  directionOf c == .right || directionOf c == .arabicNumber

/-! ## Labels -/

/-- Whether these directions, without marks at the end, may follow each other in a
label from left to right. -/
def runsLeft (ds : List Direction) : Bool :=
  ds.all (· ∈ [.left, .europeanNumber, .neutral, .mark])
    && ds.getLast?.any (· ∈ [.left, .europeanNumber])

/-- Whether these directions, without marks at the end, may follow each other in a
label from right to left. Its digits are all of one kind. -/
def runsRight (ds : List Direction) : Bool :=
  ds.all (· != .left)
    && ds.getLast?.any (· ∈ [.right, .arabicNumber, .europeanNumber])
    && !(ds.contains .arabicNumber && ds.contains .europeanNumber)

/-- Whether a label keeps to the direction of its first letter. -/
def directed (label : List Char) : Bool :=
  let ds := label.map directionOf
  let unmarked := (ds.reverse.dropWhile (· == .mark)).reverse
  match ds with
  | [] => true
  | .left :: _ => runsLeft unmarked
  | .right :: _ => runsRight unmarked
  | _ :: _ => false

theorem not_isRightward_ascii (c : Char) (ascii : c.toNat < 128) : isRightward c = false :=
  Text.forall_ascii (P := fun c => isRightward c = false) (by decide +kernel) c ascii

end VirtualHosting.Url.Domain
