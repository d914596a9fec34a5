/-
# Toml.Number — numbers, dates and times

An integer is decimal, or hexadecimal, octal or binary after `0x`, `0o` or `0b`,
and fits in 64 bits. Underscores may stand between digits. A date names a day
that its month has, a time counts seconds and perhaps parts of one, and the two
may stand together, with or without an offset.
-/
import VirtualHosting.Toml.Text

namespace VirtualHosting.Toml

set_option autoImplicit false

/-- Reads a digit, and an underscore before it. -/
def nextDigit (accepts : Char → Bool) : Reader Char
  | '_' :: rest => Reader.one accepts rest
  | cs => Reader.one accepts cs

/-- Reads digits with underscores between them. -/
def digits (accepts : Char → Bool) : Reader (List Char) := fun cs => do
  let (first, rest) ← Reader.one accepts cs
  let (more, rest) := Reader.many (nextDigit accepts) rest
  some (first :: more, rest)

/-- Reads a sign, perhaps none, and says whether it is a minus. -/
def sign : Reader Bool
  | '-' :: rest => some (true, rest)
  | '+' :: rest => some (false, rest)
  | cs => some (false, cs)

/-- Reads the digits of a decimal integer, which has no leading zeros. -/
def decimalDigits : Reader (List Char)
  | '0' :: rest => some (['0'], rest)
  | cs => digits Char.isDigit cs

def fitsWord (n : Int) : Bool :=
  -9223372036854775808 ≤ n && n ≤ 9223372036854775807

/-- Reads an integer. -/
def integer : Reader Int := fun cs =>
  let based (base : Nat) (accepts : Char → Bool) (rest : List Char) : Option (Int × List Char) := do
    let (ds, rest) ← digits accepts rest
    let n : Int := Text.Hex.ofDigits base ds
    if fitsWord n then some (n, rest) else none
  match cs with
  | '0' :: 'x' :: rest => based 16 Text.Hex.isDigit rest
  | '0' :: 'o' :: rest => based 8 (fun c => '0' ≤ c && c ≤ '7') rest
  | '0' :: 'b' :: rest => based 2 (fun c => c == '0' || c == '1') rest
  | _ => do
    let (negative, rest) ← sign cs
    let (ds, rest) ← decimalDigits rest
    let n : Int := Text.Hex.ofDigits 10 ds
    let n := if negative then -n else n
    if fitsWord n then some (n, rest) else none

/-! ## Floats -/

/-- Reads the exponent of a float. -/
def exponent : Reader Int
  | c :: rest =>
    if c == 'e' || c == 'E' then do
      let (negative, rest) ← sign rest
      let (ds, rest) ← digits Char.isDigit rest
      let n : Int := Text.Hex.ofDigits 10 ds
      some (if negative then -n else n, rest)
    else none
  | [] => none

/-- Reads the digits after the point of a float. -/
def fraction : Reader (List Char)
  | '.' :: rest => digits Char.isDigit rest
  | _ => none

/-- Whether `mantissa` times ten to the `scale` is nearer to the end of the
64-bit floats than to the greatest of them. -/
def overflows (mantissa : Nat) (scale : Int) : Bool :=
  let limit := Nat.pow 2 1024 - Nat.pow 2 970
  let magnitude := (Nat.toDigits 10 mantissa).length + scale
  if mantissa = 0 || magnitude < 300 then false
  else if magnitude > 310 then true
  else if scale ≥ 0 then mantissa * Nat.pow 10 scale.toNat ≥ limit
  else mantissa ≥ limit * Nat.pow 10 (-scale).toNat

/-- Reads `inf` or `nan` after a sign, perhaps none. -/
def specialFloat : Reader Unit := fun cs => do
  let (_, rest) ← sign cs
  (Reader.exactly "inf" rest).or (Reader.exactly "nan" rest)

/-- Reads a float that has a fraction or an exponent. A positive one must not
run over. -/
def plainFloat : Reader Unit := fun cs => do
  let (negative, rest) ← sign cs
  let (whole, rest) ← decimalDigits rest
  let (part, rest) ← Reader.optional fraction rest
  let (power, rest) ← Reader.optional exponent rest
  if part.isNone && power.isNone then none
  else
    let decimals := part.getD []
    let scale := power.getD 0 - decimals.length
    if !negative && overflows (Text.Hex.ofDigits 10 (whole ++ decimals)) scale then none
    else some ((), rest)

/-- Reads a float. -/
def float : Reader Unit := fun cs =>
  (plainFloat cs).or (specialFloat cs)

/-! ## Dates and times -/

/-- Reads a number of so many digits between two bounds. -/
def numberOf (count low high : Nat) : Reader Nat := fun cs => do
  let (ds, rest) ← Reader.exactCount Char.isDigit count cs
  let n := Text.Hex.ofDigits 10 ds
  if low ≤ n && n ≤ high then some (n, rest) else none

def isLeapYear (year : Nat) : Bool :=
  year % 4 == 0 && (year % 100 != 0 || year % 400 == 0)

def daysIn (year month : Nat) : Nat :=
  if month == 2 then (if isLeapYear year then 29 else 28)
  else if month == 4 || month == 6 || month == 9 || month == 11 then 30
  else 31

/-- Reads a date. -/
def date : Reader Unit := fun cs => do
  let (year, rest) ← numberOf 4 0 9999 cs
  let ((), rest) ← Reader.exactly "-" rest
  let (month, rest) ← numberOf 2 1 12 rest
  let ((), rest) ← Reader.exactly "-" rest
  let (_, rest) ← numberOf 2 1 (daysIn year month) rest
  some ((), rest)

/-- Reads a time of day. A leap second counts as one. -/
def time : Reader Unit := fun cs => do
  let (_, rest) ← numberOf 2 0 23 cs
  let ((), rest) ← Reader.exactly ":" rest
  let (_, rest) ← numberOf 2 0 59 rest
  let ((), rest) ← Reader.exactly ":" rest
  let (_, rest) ← numberOf 2 0 60 rest
  let (_, rest) ← Reader.optional (fun
    | '.' :: rest =>
      match rest.takeWhile Char.isDigit with
      | [] => none
      | ds => some ((), rest.drop ds.length)
    | _ => none) rest
  some ((), rest)

/-- Reads the offset of a time. -/
def timeOffset : Reader Unit
  | 'Z' :: rest | 'z' :: rest => some ((), rest)
  | c :: rest =>
    if c == '+' || c == '-' then do
      let (_, rest) ← numberOf 2 0 23 rest
      let ((), rest) ← Reader.exactly ":" rest
      let (_, rest) ← numberOf 2 0 59 rest
      some ((), rest)
    else none
  | [] => none

/-- Reads a time and its offset after a date. -/
def timeOfDate : Reader Unit
  | c :: rest =>
    if c == 'T' || c == 't' || c == ' ' then do
      let ((), rest) ← time rest
      let (_, rest) ← Reader.optional timeOffset rest
      some ((), rest)
    else none
  | [] => none

/-- Reads a date, a time or both. -/
def datetime : Reader Unit := fun cs =>
  match date cs with
  | some ((), rest) => (Reader.optional timeOfDate rest).map fun (_, rest) => ((), rest)
  | none => time cs

end VirtualHosting.Toml
