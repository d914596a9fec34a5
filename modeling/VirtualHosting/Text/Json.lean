/-
# Text.Json — values as JSON

Answers are written as JSON, every item and field on a line of its own, indented
by two spaces and followed by a comma unless it is the last. An empty list and an
empty record stay on one line. In texts a quote, a backslash and the controls are
escaped and nothing else. Log lines hold a whole value on one line.

* `lines_ne_nil`: a value has at least one line.
-/
import VirtualHosting.Text.Outline

namespace VirtualHosting.Text

set_option autoImplicit false

/-- A value that JSON can write, but for numbers, which no answer has. -/
inductive Json where
  | null
  | bool (b : Bool)
  | text (s : String)
  | list (items : List Json)
  | record (fields : List (String × Json))

namespace Json

/-- A text that may be missing. -/
def option (s : Option String) : Json :=
  (s.map text).getD null

def texts (l : List String) : Json :=
  list (l.map text)

/-- How one character is written between double quotes. -/
def escapeControl (c : Char) : List Char :=
  match c with
  | '"' => ['\\', '"']
  | '\\' => ['\\', '\\']
  | '\x08' => ['\\', 'b']
  | '\t' => ['\\', 't']
  | '\n' => ['\\', 'n']
  | '\x0c' => ['\\', 'f']
  | '\r' => ['\\', 'r']
  | c =>
    if c.toNat < 0x20 then
      ['\\', 'u', '0', '0'] ++ (if c.toNat < 0x10 then ['0'] else []) ++ Nat.toDigits 16 c.toNat
    else [c]

/-- The text between double quotes. -/
def quote (s : String) : String :=
  String.ofList ('"' :: (s.toList.flatMap escapeControl ++ ['"']))

/-- Lines one level further in. -/
def indent (lines : List String) : List String :=
  lines.map ("  " ++ ·)

mutual

/-- The lines of a value. -/
def lines : Json → List String
  | null => ["null"]
  | bool b => [if b then "true" else "false"]
  | text s => [quote s]
  | list items => if items.isEmpty then ["[]"] else "[" :: (indent (itemLines items) ++ ["]"])
  | record fields =>
    if fields.isEmpty then ["\x7b\x7d"] else "\x7b" :: (indent (fieldLines fields) ++ ["\x7d"])

/-- The lines of the items of a list. -/
def itemLines : List Json → List String
  | [] => []
  | item :: items =>
    (if items.isEmpty then item.lines else Outline.closed item.lines) ++ itemLines items

/-- The lines of the fields of a record. -/
def fieldLines : List (String × Json) → List String
  | [] => []
  | (name, value) :: fields =>
    let labelled := Outline.labelled (quote name ++ ": ") value.lines
    (if fields.isEmpty then labelled else Outline.closed labelled) ++ fieldLines fields

end

mutual

/-- The value on one line, without blanks. -/
def compact : Json → String
  | null => "null"
  | bool b => if b then "true" else "false"
  | text s => quote s
  | list items => "[" ++ String.intercalate "," (compactItems items) ++ "]"
  | record fields => "\x7b" ++ String.intercalate "," (compactFields fields) ++ "\x7d"

/-- Each item on one line. -/
def compactItems : List Json → List String
  | [] => []
  | item :: items => item.compact :: compactItems items

/-- Each field on one line. -/
def compactFields : List (String × Json) → List String
  | [] => []
  | (name, value) :: fields => (quote name ++ ":" ++ value.compact) :: compactFields fields

end

/-- The value as a block of text. -/
def pretty (j : Json) : String :=
  String.intercalate "\n" j.lines

theorem lines_ne_nil (j : Json) : j.lines ≠ [] := by
  cases j
  case list items => by_cases none_left : items.isEmpty <;> simp [lines, none_left]
  case record fields => by_cases none_left : fields.isEmpty <;> simp [lines, none_left]
  all_goals simp [lines]

end Json

end VirtualHosting.Text
