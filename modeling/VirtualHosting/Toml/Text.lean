/-
# Toml.Text — blanks, comments, strings and keys

Strings come in two quotes and on one or several lines. Between double quotes a
backslash starts an escape; between single quotes every character stands for
itself. On several lines, up to two quotes may stand inside the string, and up
to two before the three that close it.
-/
import VirtualHosting.Toml.Value
import VirtualHosting.Text.Hex

namespace VirtualHosting.Toml

set_option autoImplicit false

/-! ## Blanks and comments -/

def isBlank (c : Char) : Bool :=
  c == ' ' || c == '\t'

/-- Characters that are no control, the tab aside. -/
def isVisible (c : Char) : Bool :=
  c == '\t' || (c.toNat ≥ 0x20 && c.toNat != 0x7F)

def skipBlanks (cs : List Char) : List Char :=
  cs.dropWhile isBlank

/-- Reads the end of a line, not of the text. -/
def newline : Reader Unit
  | '\n' :: rest => some ((), rest)
  | '\r' :: '\n' :: rest => some ((), rest)
  | _ => none

/-- Reads a comment up to the end of its line. -/
def comment : Reader Unit
  | '#' :: rest => some ((), rest.dropWhile isVisible)
  | _ => none

/-- Reads the end of a line or of the text. -/
def lineEnd : Reader Unit
  | [] => some ((), [])
  | cs => newline cs

/-- Reads what may follow a statement on its line. -/
def trailing : Reader Unit := fun cs => do
  let (_, rest) ← Reader.optional comment (skipBlanks cs)
  lineEnd rest

/-- Skips blanks, comments and line ends. -/
def skipLines (cs : List Char) : List Char :=
  (Reader.many (fun cs => Reader.one isBlank cs |>.map (fun (_, rest) => ((), rest))
    |>.or (newline cs) |>.or (comment cs)) cs).2

/-! ## Strings -/

/-- The character with the code that these digits spell. -/
def charOfDigits (digits : List Char) : Option Char :=
  let code := Text.Hex.ofDigits 16 digits
  if code.isValidChar then some (Char.ofNat code) else none

/-- Reads an escape after its backslash. -/
def escape : Reader Char
  | 'b' :: rest => some ('\x08', rest)
  | 't' :: rest => some ('\t', rest)
  | 'n' :: rest => some ('\n', rest)
  | 'f' :: rest => some ('\x0c', rest)
  | 'r' :: rest => some ('\r', rest)
  | '"' :: rest => some ('"', rest)
  | '\\' :: rest => some ('\\', rest)
  | 'u' :: rest => do
    let (digits, rest) ← Reader.exactCount Text.Hex.isDigit 4 rest
    some (← charOfDigits digits, rest)
  | 'U' :: rest => do
    let (digits, rest) ← Reader.exactCount Text.Hex.isDigit 8 rest
    some (← charOfDigits digits, rest)
  | _ => none

/-- Reads one piece of a string on one line. -/
def basicPiece : Reader (List Char)
  | '\\' :: rest => (escape rest).map fun (c, rest) => ([c], rest)
  | c :: rest => if isVisible c && c != '"' then some ([c], rest) else none
  | [] => none

/-- Skips the line end, blanks and line ends that an escaped line end stands for. -/
def joinedLines : Reader Unit := fun cs => do
  let ((), rest) ← newline (skipBlanks cs)
  let joint : Reader Unit := fun cs =>
    ((Reader.one isBlank cs).map fun (_, rest) => ((), rest)).or (newline cs)
  some ((), (Reader.many joint rest).2)

/-- Reads one piece of a string on several lines. -/
def basicLinesPiece : Reader (List Char)
  | '\\' :: rest =>
    match joinedLines rest with
    | some ((), rest) => some ([], rest)
    | none => (escape rest).map fun (c, rest) => ([c], rest)
  | '\r' :: '\n' :: rest => some (['\n'], rest)
  | '\n' :: rest => some (['\n'], rest)
  | c :: rest => if isVisible c && c != '"' then some ([c], rest) else none
  | [] => none

/-- Reads one piece of a string in single quotes on one line. -/
def literalPiece : Reader (List Char)
  | c :: rest => if isVisible c && c != '\'' then some ([c], rest) else none
  | [] => none

/-- Reads one piece of a string in single quotes on several lines. -/
def literalLinesPiece : Reader (List Char)
  | '\r' :: '\n' :: rest => some (['\n'], rest)
  | '\n' :: rest => some (['\n'], rest)
  | cs => literalPiece cs

/-- Reads a string on one line, with its quotes. -/
def lineString (quote : Char) (piece : Reader (List Char)) : Reader String
  | c :: rest =>
    if c = quote then
      match Reader.many piece rest with
      | (pieces, c :: rest) =>
        if c = quote then some (String.ofList pieces.flatten, rest) else none
      | (_, []) => none
    else none
  | [] => none

/-- Reads pieces, runs of one or two quotes between them, and a closing run of
three to five, all but the last three of which belong to the string. -/
def linesBody (quote : Char) (piece : Reader (List Char)) (cs : List Char) :
    Option (List Char × List Char) :=
  let (pieces, rest) := Reader.many piece cs
  let run := (rest.takeWhile (· == quote)).length
  let text := pieces.flatten
  if run = 0 || run > 5 then none
  else if run ≥ 3 then some (text ++ List.replicate (run - 3) quote, rest.drop run)
  else if _shorter : (rest.drop run).length < cs.length then
    (linesBody quote piece (rest.drop run)).map fun (more, last) =>
      (text ++ List.replicate run quote ++ more, last)
  else none
termination_by cs.length
decreasing_by exact _shorter

/-- Reads a string on several lines, with its quotes. A line end right after the
opening quotes does not count. -/
def linesString (quote : Char) (piece : Reader (List Char)) : Reader String := fun cs => do
  let ((), rest) ← Reader.exactly (String.ofList [quote, quote, quote]) cs
  let (_, rest) ← Reader.optional newline rest
  let (text, rest) ← linesBody quote piece rest
  some (String.ofList text, rest)

/-- Reads a string of any kind. -/
def string : Reader String := fun cs =>
  match cs with
  | '"' :: '"' :: '"' :: _ => linesString '"' basicLinesPiece cs
  | '"' :: _ => lineString '"' basicPiece cs
  | '\'' :: '\'' :: '\'' :: _ => linesString '\'' literalLinesPiece cs
  | '\'' :: _ => lineString '\'' literalPiece cs
  | _ => none

/-! ## Keys -/

def isKeyChar (c : Char) : Bool :=
  c.isAlphanum || c == '-' || c == '_'

/-- Reads one part of a key. -/
def keyPart : Reader String
  | '"' :: rest => lineString '"' basicPiece ('"' :: rest)
  | '\'' :: rest => lineString '\'' literalPiece ('\'' :: rest)
  | cs =>
    match cs.takeWhile isKeyChar with
    | [] => none
    | part => some (String.ofList part, cs.dropWhile isKeyChar)

/-- A key has fewer parts than this, and a value fewer levels. -/
def depthLimit : Nat := 80

/-- Reads a key: its parts, with dots and blanks between them. -/
def key : Reader (List String) := fun cs => do
  let part : Reader String := fun cs => do
    let (part, rest) ← keyPart (skipBlanks cs)
    some (part, skipBlanks rest)
  let (parts, rest) ← Reader.separated part (Reader.exactly ".") cs
  if parts.isEmpty || parts.length ≥ depthLimit then none else some (parts, rest)

end VirtualHosting.Toml
