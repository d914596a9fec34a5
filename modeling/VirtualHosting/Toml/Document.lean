/-
# Toml.Document — values, tables and whole documents

A document is a list of statements: headers, which open a table or add one to an
array of tables, and pairs of a key and a value, which go into the table last
opened. Tables that a header or a dotted key only passes through come into being
on the way. A table is defined once: by its own header, by a value in braces, or
by dotted keys, and never by two of these.

While a document is read its tables are `Node`s, which remember how they were
defined; `Node.toValue` forgets it.
-/
import VirtualHosting.Toml.Number

namespace VirtualHosting.Toml

set_option autoImplicit false

/-- A part of a document that is being read. -/
inductive Node where
  | value (v : Value)
  /-- A table. `implicit` if only passed through so far, `dotted` if dotted keys
  brought it into being. -/
  | table (implicit dotted : Bool) (entries : List (String × Node))
  /-- An array of tables that headers add to. -/
  | tables (items : List (List (String × Node)))

abbrev Entries := List (String × Node)

/-- Stores a node under a key, in place of an earlier one. -/
def replaceEntry (key : String) (node : Node) : Entries → Entries
  | [] => [(key, node)]
  | (k, n) :: rest => if k = key then (key, node) :: rest else (k, n) :: replaceEntry key node rest

/-- Changes the table that a path leads to, by a function that is told whether
dotted keys brought it into being. The last table of an array stands for the
array. `byKey` says that the path is part of a dotted key, which must not enter a
table that has a definition of its own. -/
def within (byKey : Bool) (f : Bool → Entries → Option Entries) :
    List String → Bool → Entries → Option Entries
  | [], dotted, entries => f dotted entries
  | key :: path, _, entries =>
    match entries.lookup key with
    | none => do
      let inner ← within byKey f path byKey []
      some (entries ++ [(key, .table true byKey inner)])
    | some (.value _) => none
    | some (.table implicit dotted inner) =>
      if byKey && !implicit then none
      else do
        let inner ← within byKey f path dotted inner
        some (replaceEntry key (.table implicit dotted inner) entries)
    | some (.tables items) =>
      match items.getLast? with
      | none => none
      | some last => do
        let last ← within byKey f path false last
        some (replaceEntry key (.tables (items.dropLast ++ [last])) entries)

/-- Adds a pair to a table. All parts of the key but the last lead to where the
pair goes, and only a table of dotted keys takes pairs that way. -/
def addPair (key : List String) (v : Value) (entries : Entries) : Option Entries :=
  match key.getLast? with
  | none => none
  | some last =>
    let path := key.dropLast
    within true (fun dotted entries =>
      if dotted == path.isEmpty then none
      else if (entries.lookup last).isSome then none
      else some (entries ++ [(last, .value v)])) path false entries

/-- Opens the table of a header. -/
def openTable (key : List String) (entries : Entries) : Option Entries :=
  match key.getLast? with
  | none => none
  | some last =>
    within false (fun _ entries =>
      match entries.lookup last with
      | none => some (entries ++ [(last, .table false false [])])
      | some (.table true false inner) =>
        some (replaceEntry last (.table false false inner) entries)
      | some _ => none) key.dropLast false entries

/-- Adds a table to the array of a header. -/
def openArrayTable (key : List String) (entries : Entries) : Option Entries :=
  match key.getLast? with
  | none => none
  | some last =>
    within false (fun _ entries =>
      match entries.lookup last with
      | none => some (entries ++ [(last, .tables [[]])])
      | some (.tables items) => some (replaceEntry last (.tables (items ++ [[]])) entries)
      | some _ => none) key.dropLast false entries

mutual

/-- What a node says. -/
def Node.toValue : Node → Value
  | .value v => v
  | .table _ _ entries => .table (entryValues entries)
  | .tables items => .array (tableValues items)

/-- What the entries of a table say. -/
def entryValues : List (String × Node) → List (String × Value)
  | [] => []
  | (key, node) :: rest => (key, node.toValue) :: entryValues rest

/-- What the tables of an array say. -/
def tableValues : List (List (String × Node)) → List Value
  | [] => []
  | entries :: rest => .table (entryValues entries) :: tableValues rest

end

/-! ## Values -/

/-- Reads the pairs of a table in braces, given how to read a value. -/
def bracedPairs (value : Reader Value) : Reader (List (List String × Value)) :=
  Reader.separated (fun cs => do
    let (key, rest) ← key cs
    let ((), rest) ← Reader.exactly "=" rest
    let (v, rest) ← value (skipBlanks rest)
    some ((key, v), skipBlanks rest)) (Reader.exactly ",")

/-- Reads a table in braces, given how to read a value. -/
def bracedTable (value : Reader Value) : Reader Value := fun cs => do
  let (pairs, rest) ← bracedPairs value cs
  let ((), rest) ← Reader.exactly "\x7d" (skipBlanks rest)
  let entries ← pairs.foldlM (fun entries (key, v) => addPair key v entries) []
  some (.table (entryValues entries), rest)

/-- Reads the items of an array and its end, given how to read a value. A comma
may follow the last item. -/
def arrayItems (value : Reader Value) : Reader Value := fun cs => do
  let item : Reader Value := fun cs => do
    let (v, rest) ← value (skipLines cs)
    some (v, skipLines rest)
  let (items, rest) ← Reader.separated item (Reader.exactly ",") cs
  let (_, rest) ← if items.isEmpty then some (none, rest)
    else Reader.optional (Reader.exactly ",") rest
  let ((), rest) ← Reader.exactly "]" (skipLines rest)
  some (.array items, rest)

/-- Reads a number or a date; the spelling is what was read. -/
def numberValue : Reader Value := fun cs =>
  let spelling (rest : List Char) : String := String.ofList (cs.take (cs.length - rest.length))
  ((datetime cs).map fun ((), rest) => (Value.datetime (spelling rest), rest)).or
    (((float cs).map fun ((), rest) => (Value.float (spelling rest), rest)).or
      ((integer cs).map fun (n, rest) => (Value.integer n, rest)))

/-- Reads a value with at most so many levels of arrays and tables in it. -/
def value : Nat → Reader Value
  | levels, cs =>
    match cs with
    | '"' :: _ | '\'' :: _ => (string cs).map fun (s, rest) => (.string s, rest)
    | '[' :: rest =>
      match levels with
      | 0 => none
      | levels + 1 => arrayItems (value levels) rest
    | '\x7b' :: rest =>
      match levels with
      | 0 => none
      | levels + 1 => bracedTable (value levels) rest
    | 't' :: _ => (Reader.exactly "true" cs).map fun ((), rest) => (.boolean true, rest)
    | 'f' :: _ => (Reader.exactly "false" cs).map fun ((), rest) => (.boolean false, rest)
    | _ => numberValue cs

/-! ## Statements -/

/-- One line's worth of a document. -/
inductive Statement where
  | blank
  | table (key : List String)
  | arrayTable (key : List String)
  | pair (key : List String) (v : Value)

/-- Reads a statement and the end of its line. -/
def statement : Reader Statement := fun cs =>
  match skipBlanks cs with
  | '#' :: rest => do
    let (_, rest) ← comment ('#' :: rest)
    let ((), rest) ← lineEnd rest
    some (.blank, rest)
  | '[' :: '[' :: rest => do
    let (key, rest) ← key rest
    let ((), rest) ← Reader.exactly "]]" rest
    let ((), rest) ← trailing rest
    some (.arrayTable key, rest)
  | '[' :: rest => do
    let (key, rest) ← key rest
    let ((), rest) ← Reader.exactly "]" rest
    let ((), rest) ← trailing rest
    some (.table key, rest)
  | '\n' :: rest => some (.blank, rest)
  | '\r' :: '\n' :: rest => some (.blank, rest)
  | cs => do
    let (key, rest) ← key cs
    let ((), rest) ← Reader.exactly "=" rest
    let (v, rest) ← value (depthLimit - 1) (skipBlanks rest)
    let ((), rest) ← trailing rest
    some (.pair key v, rest)

/-- The tables read so far and the header in force. -/
structure Progress where
  entries : Entries := []
  header : List String := []

/-- Takes a statement in. -/
def Progress.take (p : Progress) : Statement → Option Progress
  | .blank => some p
  | .table key => do
    let entries ← openTable key p.entries
    some { entries, header := key }
  | .arrayTable key => do
    let entries ← openArrayTable key p.entries
    some { entries, header := key }
  | .pair key v => do
    let entries ← within false (fun _ entries => addPair key v entries) p.header false p.entries
    some { p with entries }

/-- Reads the entries of a whole document. -/
def parse? (text : String) : Option (List (String × Value)) := do
  let cs := match text.toList with
    | '\ufeff' :: rest => rest
    | cs => cs
  let (statements, rest) := Reader.many statement cs
  if (skipBlanks rest).isEmpty then
    let done ← statements.foldlM Progress.take {}
    some (entryValues done.entries)
  else none

end VirtualHosting.Toml
