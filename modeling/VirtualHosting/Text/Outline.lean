/-
# Text.Outline — structured values as diagnostics show them

An `Outline` is the shape of a value: an atom, a list, a record with named
fields, or something wrapped in a word. It is shown on one line, or as a block
in which every field and item has a line of its own, indented by four spaces and
closed by a comma. A record that does not show all its fields ends in two dots.

* `block_ne_nil`: a block has at least one line.
-/
import VirtualHosting.Text.Quoted

namespace VirtualHosting.Text

set_option autoImplicit false

/-- The shape of a value. -/
inductive Outline where
  | atom (text : String)
  | list (items : List Outline)
  | record (name : String) (fields : List (String × Outline)) (complete : Bool)
  | wrapped (word : String) (item : Outline)

namespace Outline

def text (s : String) : Outline := atom (quoted s)

def bool (b : Bool) : Outline := atom (if b then "true" else "false")

def nat (n : Nat) : Outline := atom (toString n)

/-- A value that may be missing. -/
def option : Option Outline → Outline
  | none => atom "None"
  | some item => wrapped "Some" item

mutual

/-- The value on one line. -/
def line : Outline → String
  | atom text => text
  | list items => "[" ++ String.intercalate ", " (lineItems items) ++ "]"
  | record name fields complete =>
    name ++ " \x7b " ++
      String.intercalate ", " (lineFields fields ++ if complete then [] else [".."]) ++ " \x7d"
  | wrapped word item => word ++ "(" ++ item.line ++ ")"

/-- Each item on one line. -/
def lineItems : List Outline → List String
  | [] => []
  | item :: items => item.line :: lineItems items

/-- Each field on one line. -/
def lineFields : List (String × Outline) → List String
  | [] => []
  | (name, value) :: fields => (name ++ ": " ++ value.line) :: lineFields fields

end

/-- Lines one level further in. -/
def indent (lines : List String) : List String :=
  lines.map ("    " ++ ·)

/-- Lines with a comma after the last. -/
def closed : List String → List String
  | [] => []
  | [last] => [last ++ ","]
  | first :: rest => first :: closed rest

/-- Lines whose first one follows a label. -/
def labelled (label : String) : List String → List String
  | [] => [label]
  | first :: rest => (label ++ first) :: rest

mutual

/-- The lines of the value's block. -/
def block : Outline → List String
  | atom text => [text]
  | list items => if items.isEmpty then ["[]"] else "[" :: (indent (blockItems items) ++ ["]"])
  | record name fields complete =>
    (name ++ " \x7b") ::
      (indent (blockFields fields ++ if complete then [] else [".."]) ++ ["\x7d"])
  | wrapped word item => (word ++ "(") :: (indent (closed item.block) ++ [")"])

/-- The lines of the items. -/
def blockItems : List Outline → List String
  | [] => []
  | item :: items => closed item.block ++ blockItems items

/-- The lines of the fields. -/
def blockFields : List (String × Outline) → List String
  | [] => []
  | (name, value) :: fields =>
    closed (labelled (name ++ ": ") value.block) ++ blockFields fields

end

/-- The value as a block of text. -/
def blockText (o : Outline) : String :=
  String.intercalate "\n" o.block

theorem block_ne_nil (o : Outline) : o.block ≠ [] := by
  cases o
  case list items => by_cases none_left : items.isEmpty <;> simp [block, none_left]
  all_goals simp [block]

end Outline

end VirtualHosting.Text
