/-
# Table — names in ascending order

A `Table` pairs names with values and keeps its names in ascending order, by
code point and so by UTF-8 byte. Every question is one binary search for the
last name not above a key; insertion and removal build a new table and refuse
where they would change nothing.

`Table.Ordered` states the order. A table that is not ordered is a value of the
type all the same: what the searches say of one is stated under that hypothesis.

* `floorIndex?_lt`: an index that a search returns is an index of the table;
* `coveringIndexOfWord?_eq`: a count in one word means what it says, unless it is
  the greatest word;
* `find?_empty`: nothing is found in the empty table.
-/
import VirtualHosting.Search
import VirtualHosting.Text.Fold
import VirtualHosting.Slash

namespace VirtualHosting

set_option autoImplicit false

/-- Values under names, the names ascending. -/
structure Table (β : Type) where
  entries : Array (String × β) := #[]

namespace Table

variable {β : Type}

/-- The table of no names. -/
def empty : Table β := {}

/-- The entries in table order. -/
def toList (t : Table β) : List (String × β) :=
  t.entries.toList

/-- The names in table order. -/
def names (t : Table β) : List String :=
  t.toList.map (·.1)

/-- The values in the order of their names. -/
def values (t : Table β) : List β :=
  t.toList.map (·.2)

def size (t : Table β) : Nat :=
  t.entries.size

def isEmpty (t : Table β) : Bool :=
  t.entries.isEmpty

/-- The names ascend strictly, so none occurs twice. -/
def Ordered (t : Table β) : Prop :=
  t.names.Pairwise (· < ·)

/-- The index before a count of leading entries. -/
def lastOf : Nat → Option Nat
  | 0 => none
  | n + 1 => some n

/-! ## Searching -/

/-- The index of the greatest name that is not above `key`. -/
def floorIndex? (t : Table β) (key : String) : Option Nat :=
  lastOf (Search.partitionPoint t.entries fun e => decide (e.1 ≤ key))

/-- The same with names and key folded, for a table whose folded names ascend. -/
def floorIndexFolded? (t : Table β) (key : String) : Option Nat :=
  lastOf (Search.partitionPoint t.entries fun e => Text.compareFolded e.1 key != .gt)

/-- The greatest entry not above `key`. -/
def floor? (t : Table β) (key : String) : Option (String × β) :=
  (t.floorIndex? key).bind (t.entries[·]?)

/-- The greatest entry not above `key`, names and key folded. -/
def floorFolded? (t : Table β) (key : String) : Option (String × β) :=
  (t.floorIndexFolded? key).bind (t.entries[·]?)

/-- The entry named exactly `key`. -/
def entry? (t : Table β) (key : String) : Option (String × β) :=
  (t.floor? key).filter (·.1 == key)

/-- The entry whose name is `key` but for letter case. -/
def entryFolded? (t : Table β) (key : String) : Option (String × β) :=
  (t.floorFolded? key).filter fun e => Text.sameFolded e.1 key

/-- The value stored under `key`. -/
def find? (t : Table β) (key : String) : Option β :=
  (t.entry? key).map (·.2)

/-- The first entry. -/
def first? (t : Table β) : Option (String × β) :=
  t.entries[0]?

/-- The last entry. -/
def last? (t : Table β) : Option (String × β) :=
  t.entries.back?

/-! ## Changing -/

/-- The table with `value` under a new `name`; refused if the name is taken. -/
def insert? (t : Table β) (name : String) (value : β) : Option (Table β) :=
  match t.floorIndex? name with
  | none => some ⟨t.entries.insertIdxIfInBounds 0 (name, value)⟩
  | some i =>
    if (t.entry? name).isSome then none
    else some ⟨t.entries.insertIdxIfInBounds (i + 1) (name, value)⟩

/-- The table without `name`; refused if there is no such name. -/
def erase? (t : Table β) (name : String) : Option (Table β) :=
  match t.floorIndex? name with
  | none => none
  | some i =>
    if (t.entry? name).isSome then some ⟨t.entries.eraseIdxIfInBounds i⟩ else none

/-- The table with `f` applied to the value under `name`. -/
def modify (t : Table β) (name : String) (f : β → β) : Table β :=
  ⟨t.entries.map fun e => if e.1 = name then (e.1, f e.2) else e⟩

/-- The table of the entries that satisfy `keep`. -/
def filter (t : Table β) (keep : String × β → Bool) : Table β :=
  ⟨t.entries.filter keep⟩

/-- The table of one entry. -/
def singleton (name : String) (value : β) : Table β :=
  ⟨#[(name, value)]⟩

/-- The greatest number of slashes in a name, zero for the empty table. -/
def nesting (t : Table β) : Nat :=
  t.names.foldl (fun most name => max most (Slash.count name)) 0

/-! ## Covering names -/

/-- Asks for ever shorter paths, a segment less each time, until the greatest
name not above the path covers it. -/
def descend? (t : Table β) (path : String) : Option Nat :=
  match t.floorIndex? path with
  | none => none
  | some i =>
    match t.entries[i]? with
    | none => none
    | some (name, _) =>
      if Slash.covers name path then some i
      else if path.isEmpty then none
      else t.descend? (Slash.parent path)
termination_by path.toList.length
decreasing_by
  simp only [Slash.parent, String.toList_ofList]
  apply Slash.upToLast_length_lt
  rename_i nonempty
  intro none_left
  apply nonempty
  simp [String.isEmpty_iff, ← String.toList_inj, none_left]

/-- The index of the most specific name that covers `path`, or covers it up to its
slash number `cut`: a first search on the whole path, then on the path cut there,
then a segment less each time. -/
def coveringIndexUpTo? (t : Table β) (path : String) (cut : Nat) : Option Nat :=
  match t.floorIndex? path with
  | none => none
  | some i =>
    match t.entries[i]? with
    | none => none
    | some (name, _) =>
      if Slash.covers name path then some i
      else t.descend? (Slash.cutAtNth cut path)

/-- The index of the most specific name that covers `path`, where no name has
more than `nesting` slashes and so none reaches beyond the next slash. -/
def coveringIndex? (t : Table β) (path : String) (nesting : Nat) : Option Nat :=
  t.coveringIndexUpTo? path (nesting + 1)

/-- The same for a count of slashes in one word. Nothing comes after the greatest
word but zero, so that one cuts the path at its first slash. -/
def coveringIndexOfWord? (t : Table β) (path : String) (nesting : UInt64) : Option Nat :=
  t.coveringIndexUpTo? path (nesting + 1).toNat

/-- The most specific entry whose name covers `path`. -/
def covering? (t : Table β) (path : String) (nesting : Nat) : Option (String × β) :=
  (t.coveringIndex? path nesting).bind (t.entries[·]?)

/-! ## First facts -/

theorem lastOf_eq_some_iff (n i : Nat) : lastOf n = some i ↔ n = i + 1 := by
  cases n <;> simp [lastOf]

theorem floorIndex?_lt (t : Table β) (key : String) (i : Nat)
    (found : t.floorIndex? key = some i) : i < t.size := by
  rw [floorIndex?, lastOf_eq_some_iff] at found
  have := Search.partitionPoint_le t.entries fun e => decide (e.1 ≤ key)
  rw [found] at this
  exact this

theorem coveringIndexOfWord?_eq (t : Table β) (path : String) (nesting : Nat)
    (fits : nesting + 1 < UInt64.size) :
    t.coveringIndexOfWord? path (UInt64.ofNat nesting) = t.coveringIndex? path nesting := by
  have size : UInt64.size = 2 ^ 64 := rfl
  have word : (UInt64.ofNat nesting + 1).toNat = nesting + 1 := by
    rw [UInt64.toNat_add, UInt64.toNat_ofNat']
    simp only [UInt64.reduceToNat]
    omega
  rw [coveringIndexOfWord?, word, coveringIndex?]

@[simp]
theorem find?_empty (key : String) : (empty : Table β).find? key = none := by
  simp [find?, entry?, floor?, floorIndex?, empty, lastOf]

theorem names_modify (t : Table β) (name : String) (f : β → β) :
    (t.modify name f).names = t.names := by
  simp only [names, toList, modify, Array.toList_map, List.map_map]
  apply List.map_congr_left
  intro e _
  by_cases here : e.1 = name <;> simp [here]

theorem Ordered.modify {t : Table β} (ordered : t.Ordered) (name : String) (f : β → β) :
    (t.modify name f).Ordered := by
  rw [Ordered, names_modify]
  exact ordered

end Table

end VirtualHosting
