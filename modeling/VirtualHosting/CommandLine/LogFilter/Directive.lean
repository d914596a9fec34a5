/-
# CommandLine.LogFilter.Directive — one rule on what is logged

A directive is a level, a topic, or a topic and the level up to which its events
pass, such as `info` or `request_mapper=debug`; it may name a span in brackets and a
field in braces, such as `topic[span{field}]=level`. A value may be asked of the
field, as a number or by a regular expression.

Where a part of a directive starts and ends is found in its text without the blanks
around it, but the part is taken at those places, counted in bytes, from the text as
it is. So blanks in front shift every part, and a part can come to start or end
inside a character. Then there is nothing to take, and whoever reads has to stop.

* `part_trimmed`: without blanks in front every part is what it seems;
* `parse_blank`: a text of blanks is no directive.
-/
import VirtualHosting.Event
import VirtualHosting.Text.Expression
import VirtualHosting.Text.Fold
import VirtualHosting.Text.Slice

namespace VirtualHosting.CommandLine

set_option autoImplicit false

/-- The least level that passes; nothing passes without one. -/
abbrev Limit := Option Level

/-- The word for a limit, in any letter case, or its number. No word at all means
errors. -/
def limit? (word : String) : Option Limit :=
  match Text.fold word with
  | "" | "error" => some (some .error)
  | "warn" => some (some .warn)
  | "info" => some (some .info)
  | "debug" => some (some .debug)
  | "trace" => some (some .trace)
  | "off" => some none
  | word => number word.toList
where
  number (word : List Char) : Option Limit :=
    let digits := if word.head? = some '+' then word.drop 1 else word
    if digits.isEmpty || !digits.all Char.isDigit then none
    else match digits.foldl (fun n c => n * 10 + (c.toNat - '0'.toNat)) 0 with
      | 0 => some none
      | 1 => some (some .error)
      | 2 => some (some .warn)
      | 3 => some (some .info)
      | 4 => some (some .debug)
      | 5 => some (some .trace)
      | _ => none

/-- One directive. -/
structure Directive where
  limit : Limit := some .trace
  /-- What the topics of its events start with. -/
  topic : Option String := none
  span : Option String := none
  /-- A field that its events have, and perhaps the value of it. -/
  field : Option (String × Option String) := none
  deriving DecidableEq, Repr

namespace Directive

/-! ## Parts -/

/-- Why a text is not read as a directive. -/
inductive Misreading where
  | unreadable
  /-- A part of it starts or ends inside a character. -/
  | torn
  deriving DecidableEq, Repr

/-- The text of a directive, as it is and without the blanks around it. -/
structure Source where
  given : List Char
  trimmed : List Char

def Source.ofText (text : String) : Source where
  given := text.toList
  trimmed := ((text.toList.dropWhile Text.isSpace).reverse.dropWhile Text.isSpace).reverse

/-- The place in the trimmed text where only `rest` is left of it. -/
def Source.place (s : Source) (rest : List Char) : Nat :=
  Text.byteLength s.trimmed - Text.byteLength rest

/-- The given text from one place on. -/
def Source.tail (s : Source) (first : Nat) : Except Misreading (List Char) :=
  match Text.cutAfter? first s.given with
  | some (_, rest) => .ok rest
  | none => .error .torn

/-- The given text from one place up to another. -/
def Source.part (s : Source) (first last : Nat) : Except Misreading String := do
  match Text.cutAfter? (last - first) (← s.tail first) with
  | some (inside, _) => .ok (String.ofList inside)
  | none => .error .torn

/-! ## Values -/

/-- Whether a text is a number, perhaps infinite or none at all. -/
def isNumber (value : String) : Bool :=
  let cs := value.toList
  let cs := if cs.head?.any (· ∈ ['+', '-']) then cs.drop 1 else cs
  String.ofList (cs.map Text.lower) ∈ ["inf", "infinity", "nan"] || isDecimal cs
where
  isDecimal (cs : List Char) : Bool :=
    let whole := cs.takeWhile Char.isDigit
    let rest := cs.drop whole.length
    let fraction :=
      if rest.head? == some '.' then (rest.drop 1).takeWhile Char.isDigit else []
    let rest := if rest.head? == some '.' then rest.drop (fraction.length + 1) else rest
    !(whole.isEmpty && fraction.isEmpty) && (rest.isEmpty || isExponent rest)
  isExponent : List Char → Bool
    | [] => false
    | e :: cs =>
      let digits := if cs.head?.any (· ∈ ['+', '-']) then cs.drop 1 else cs
      (e == 'e' || e == 'E') && !digits.isEmpty && digits.all Char.isDigit

/-- Reads a field and the value that is asked of it. -/
def readField (word : String) : Except Misreading (String × Option String) :=
  let name := Text.before '=' word
  match Text.fromFirst? '=' word with
  | none => .ok (name, none)
  | some behind =>
    let value := Text.before '=' (Text.dropLength "=" behind)
    if isNumber value || Text.Expression.isUsable value then .ok (name, some value)
    else .error .unreadable

/-! ## Reading -/

/-- Reads the level that is left. No level means all. -/
def readLimit (d : Directive) (s : Source) (rest : List Char) : Except Misreading Directive := do
  let word := String.ofList (← s.tail (s.place rest))
  if word = "" then return { d with limit := some .trace }
  else match limit? word with
    | some limit => return { d with limit }
    | none => throw .unreadable

/-- Reads what follows the bracket that closes a span. -/
def readBehindSpan (d : Directive) (s : Source) (rest : List Char) :
    Except Misreading Directive :=
  match rest with
  | [] => .ok d
  | '=' :: rest => d.readLimit s rest
  | _ => .error .unreadable

/-- Reads from behind the brace that opens a field. -/
def readBehindBrace (d : Directive) (s : Source) (rest : List Char) :
    Except Misreading Directive :=
  match rest.dropWhile (· != '\x7d') with
  | [] => .error .unreadable
  | close :: behind => do
    let word ← s.part (s.place rest) (s.place (close :: behind))
    if word = "" then throw .unreadable
    let d := { d with field := some (← readField word) }
    match behind with
    | ']' :: behind => d.readBehindSpan s behind
    | _ => throw .unreadable

/-- Reads from behind the bracket that opens a span. -/
def readSpan (d : Directive) (s : Source) (rest : List Char) : Except Misreading Directive :=
  match rest.dropWhile (· ∉ [']', '\x7b']) with
  | [] => .error .unreadable
  | c :: behind => do
    let span ← s.part (s.place rest) (s.place (c :: behind))
    if c = ']' then ({ d with span := some span }).readBehindSpan s behind
    else
      let span := if span = "" then none else some span
      ({ d with span }).readBehindBrace s behind

/-- Whether a topic or level can start with this character. -/
def canStart (c : Char) : Bool :=
  Text.isAlphanumeric c || c ∈ ['-', ':', '_']

/-- Reads a directive. -/
def parse (text : String) : Except Misreading Directive :=
  let s := Source.ofText text
  match s.trimmed with
  | [] => .error .unreadable
  | '[' :: rest => ({ : Directive}).readSpan s rest
  | c :: _ =>
    if !canStart c then .error .unreadable
    else match s.trimmed.dropWhile (· ∉ ['=', '[']) with
      | [] =>
        match limit? text with
        | some limit => .ok { limit }
        | none => .ok { topic := some text }
      | mark :: rest => do
        let d : Directive := { topic := some (← s.part 0 (s.place (mark :: rest))) }
        if mark = '=' then d.readLimit s rest else d.readSpan s rest

/-! ## First facts -/

theorem Source.part_trimmed (before inside rest : List Char) :
    (Source.mk (before ++ inside ++ rest) (before ++ inside ++ rest)).part
      (Text.byteLength before) (Text.byteLength before + Text.byteLength inside) =
      .ok (String.ofList inside) := by
  have first : Text.cutAfter? (Text.byteLength before) (before ++ inside ++ rest) =
      some (before, inside ++ rest) :=
    (Text.cutAfter?_eq_some_iff _ _ _ _).2 ⟨by simp, rfl⟩
  have second : Text.cutAfter? (Text.byteLength inside) (inside ++ rest) =
      some (inside, rest) :=
    (Text.cutAfter?_eq_some_iff _ _ _ _).2 ⟨rfl, rfl⟩
  simp only [Source.part, Source.tail, first, Nat.add_sub_cancel_left, bind, Except.bind, second]

theorem parse_blank (text : String) (blank : ∀ c ∈ text.toList, Text.isSpace c = true) :
    parse text = .error .unreadable := by
  have skipped : text.toList.dropWhile Text.isSpace = [] := by
    generalize text.toList = cs at blank
    induction cs with
    | nil => rfl
    | cons c cs ih => simp [blank c (by simp), ih fun d inside => blank d (by simp [inside])]
  have empty : (Source.ofText text).trimmed = [] := by
    simp only [Source.ofText, skipped]
    rfl
  simp only [parse, empty]

end Directive

end VirtualHosting.CommandLine
