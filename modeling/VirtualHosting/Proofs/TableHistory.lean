/-
# Proofs.TableHistory — a table holds what its history left there

A table starts empty and is changed by one name at a time. Whether a change is refused
depends on what is there, and what is there depends on the changes before. The list of
changes alone tells it (`Inserted`, `InsertedWith`): a name is there if it was inserted and
not erased since, with the value of the insertion that found it missing. One change does the
same to what a table holds as to what its history tells, so a table mirrors its history
after any number of them, and is the ascending list of what was inserted and not erased.

* `insertedAfter_append_iff`: what one more change does to a history;
* `Ordered.mem_after_iff`: what it does to a table;
* `mirrors_ofChanges`: after any list of changes the two agree;
* `ofChanges_faithful`: so the table is an ordered set, and searches find their way in it.
-/
import VirtualHosting.Proofs.ByteOrder
import VirtualHosting.Proofs.CoveringIndex

namespace VirtualHosting.Table

set_option autoImplicit false

variable {β : Type}

/-- An attempt to change a table by one name. -/
inductive Change (β : Type) where
  | insert (name : String) (value : β)
  | erase (name : String)

/-- The table once changed, unless the change is refused. -/
def changed? (t : Table β) : Change β → Option (Table β)
  | .insert name value => t.insert? name value
  | .erase name => t.erase? name

/-- The table after an attempt to change it. -/
def after (t : Table β) (change : Change β) : Table β :=
  (t.changed? change).getD t

/-- What a list of attempts makes of the empty table. -/
def ofChanges (changes : List (Change β)) : Table β :=
  changes.foldl after empty

theorem ofChanges_concat (changes : List (Change β)) (change : Change β) :
    ofChanges (changes ++ [change]) = (ofChanges changes).after change :=
  List.foldl_concat ..

/-! ## What a history tells -/

/-- Next after `before` came an insertion of `name` with `value`, and no erasure of `name`
since. -/
def InsertedAfter (changes before : List (Change β)) (name : String) (value : β) : Prop :=
  ∃ later, changes = before ++ .insert name value :: later ∧ .erase name ∉ later

/-- The name was inserted, and not erased since. -/
def Inserted (changes : List (Change β)) (name : String) : Prop :=
  ∃ before value, InsertedAfter changes before name value

/-- The name was inserted with this value while it was not there, and not erased since. -/
def InsertedWith (changes : List (Change β)) (name : String) (value : β) : Prop :=
  ∃ before, InsertedAfter changes before name value ∧ ¬ Inserted before name

variable {changes before : List (Change β)} {change : Change β} {name : String} {value : β}

/-- One more change is an insertion of the name, or leaves what was there unless it erases
the name. -/
theorem insertedAfter_append_iff :
    InsertedAfter (changes ++ [change]) before name value ↔
      change = .insert name value ∧ before = changes ∨
        change ≠ .erase name ∧ InsertedAfter changes before name value := by
  unfold InsertedAfter
  constructor
  · rintro ⟨later, whole, kept⟩
    rcases List.eq_nil_or_concat' later with rfl | ⟨later, last, rfl⟩
    · obtain ⟨same, newest⟩ := List.append_inj' whole rfl
      exact .inl ⟨List.singleton_inj.1 newest, same.symm⟩
    · rw [← List.cons_append, ← List.append_assoc] at whole
      obtain ⟨same, newest⟩ := List.append_inj' whole rfl
      rw [List.mem_append, not_or, List.mem_singleton, ← List.singleton_inj.1 newest] at kept
      exact .inr ⟨Ne.symm kept.2, later, same, kept.1⟩
  · rintro (⟨rfl, rfl⟩ | ⟨spares, later, rfl, kept⟩)
    · exact ⟨[], rfl, List.not_mem_nil⟩
    · refine ⟨later ++ [change], by simp, ?_⟩
      rw [List.mem_append, not_or, List.mem_singleton]
      exact ⟨kept, Ne.symm spares⟩

theorem inserted_append_iff :
    Inserted (changes ++ [change]) name ↔
      (∃ value, change = .insert name value) ∨ change ≠ .erase name ∧ Inserted changes name := by
  simp only [Inserted, insertedAfter_append_iff]
  constructor
  · rintro ⟨before, value, ⟨here, _⟩ | ⟨spares, earlier⟩⟩
    · exact .inl ⟨value, here⟩
    · exact .inr ⟨spares, before, value, earlier⟩
  · rintro (⟨value, here⟩ | ⟨spares, before, value, earlier⟩)
    · exact ⟨changes, value, .inl ⟨here, rfl⟩⟩
    · exact ⟨before, value, .inr ⟨spares, earlier⟩⟩

theorem insertedWith_append_iff :
    InsertedWith (changes ++ [change]) name value ↔
      change = .insert name value ∧ ¬ Inserted changes name ∨
        change ≠ .erase name ∧ InsertedWith changes name value := by
  simp only [InsertedWith, insertedAfter_append_iff]
  constructor
  · rintro ⟨before, ⟨here, rfl⟩ | ⟨spares, earlier⟩, fresh⟩
    · exact .inl ⟨here, fresh⟩
    · exact .inr ⟨spares, before, earlier, fresh⟩
  · rintro (⟨here, fresh⟩ | ⟨spares, before, earlier, fresh⟩)
    · exact ⟨changes, .inl ⟨here, rfl⟩, fresh⟩
    · exact ⟨before, .inr ⟨spares, earlier⟩, fresh⟩

/-! ## What a change does to a table -/

variable {t next : Table β}

/-- A change succeeds or leaves the table as it was. -/
theorem Ordered.after (ordered : t.Ordered) (change : Change β) : (t.after change).Ordered := by
  unfold Table.after
  cases done : t.changed? change with
  | none => exact ordered
  | some next =>
    cases change with
    | insert name value => exact ordered.insert? done
    | erase name => exact ordered.erase? done

theorem Ordered.mem_after_insert_iff (ordered : t.Ordered) {e : String × β} :
    e ∈ (t.after (.insert name value)).toList ↔
      e = (name, value) ∧ name ∉ t.names ∨ e ∈ t.toList := by
  rw [Table.after, changed?]
  cases done : t.insert? name value with
  | none =>
    have taken := ordered.insert?_eq_none_iff.1 done
    simp [taken]
  | some next =>
    have fresh := ordered.not_mem_of_insert? done
    rw [Option.getD_some, ordered.mem_insert? done, and_iff_left fresh]

theorem Ordered.mem_after_erase_iff (ordered : t.Ordered) {e : String × β} :
    e ∈ (t.after (.erase name)).toList ↔ name ≠ e.1 ∧ e ∈ t.toList := by
  rw [Table.after, changed?]
  cases done : t.erase? name with
  | none =>
    have missing := ordered.erase?_eq_none_iff.1 done
    rw [Option.getD_none, iff_and_self]
    rintro mem rfl
    exact missing (mem_names_of_mem mem)
  | some next => rw [Option.getD_some, ordered.mem_erase? done, and_comm, ne_comm]

/-- **What one more change does to a table** is what it does to a history. -/
theorem Ordered.mem_after_iff (ordered : t.Ordered) :
    (name, value) ∈ (t.after change).toList ↔
      change = .insert name value ∧ name ∉ t.names ∨
        change ≠ .erase name ∧ (name, value) ∈ t.toList := by
  cases change with
  | insert other newcomer =>
    rw [ordered.mem_after_insert_iff, Prod.mk.injEq, Change.insert.injEq]
    simp only [ne_eq, reduceCtorEq, not_false_eq_true, true_and]
    refine or_congr_left ?_
    constructor <;> rintro ⟨⟨rfl, rfl⟩, fresh⟩ <;> exact ⟨⟨rfl, rfl⟩, fresh⟩
  | erase other =>
    rw [ordered.mem_after_erase_iff]
    simp

theorem Ordered.mem_names_after_iff (ordered : t.Ordered) :
    name ∈ (t.after change).names ↔
      (∃ value, change = .insert name value) ∨ change ≠ .erase name ∧ name ∈ t.names := by
  constructor
  · intro named
    obtain ⟨value, mem⟩ := mem_names_iff.1 named
    rcases ordered.mem_after_iff.1 mem with ⟨here, _⟩ | ⟨spares, mem⟩
    · exact .inl ⟨value, here⟩
    · exact .inr ⟨spares, mem_names_of_mem mem⟩
  · rintro (⟨value, rfl⟩ | ⟨spares, named⟩)
    · by_cases taken : name ∈ t.names
      · obtain ⟨held, mem⟩ := mem_names_iff.1 taken
        exact mem_names_of_mem (ordered.mem_after_iff.2 (.inr ⟨by simp, mem⟩))
      · exact mem_names_of_mem (ordered.mem_after_iff.2 (.inl ⟨rfl, taken⟩))
    · obtain ⟨held, mem⟩ := mem_names_iff.1 named
      exact mem_names_of_mem (ordered.mem_after_iff.2 (.inr ⟨spares, mem⟩))

/-! ## The table mirrors its history -/

/-- A table in order that holds what a list of changes tells. -/
structure Mirrors (t : Table β) (changes : List (Change β)) : Prop where
  ordered : t.Ordered
  named : ∀ name, name ∈ t.names ↔ Inserted changes name
  stored : ∀ name value, (name, value) ∈ t.toList ↔ InsertedWith changes name value

theorem mirrors_empty : (empty : Table β).Mirrors [] where
  ordered := ordered_empty
  named name := by simp [names, toList, empty, Inserted, InsertedAfter]
  stored name value := by simp [toList, empty, InsertedWith, InsertedAfter]

/-- One more change keeps a table and its history together. -/
theorem Mirrors.after (mirrors : t.Mirrors changes) (change : Change β) :
    (t.after change).Mirrors (changes ++ [change]) where
  ordered := mirrors.ordered.after change
  named name := by
    rw [mirrors.ordered.mem_names_after_iff, inserted_append_iff, mirrors.named]
  stored name value := by
    rw [mirrors.ordered.mem_after_iff, insertedWith_append_iff, mirrors.named, mirrors.stored]

/-- **After any list of changes a table mirrors its history.** -/
theorem mirrors_ofChanges (changes : List (Change β)) : (ofChanges changes).Mirrors changes := by
  induction changes using List.reverseRecOn with
  | nil => exact mirrors_empty
  | append_singleton changes change mirrors =>
    rw [ofChanges_concat]
    exact mirrors.after change

/-! ## An ordered set -/

theorem Ordered.bytes_lt (ordered : t.Ordered) :
    t.names.Pairwise fun a b => Text.bytes a < Text.bytes b :=
  ordered.imp fun lt => (Text.lt_iff_bytes_lt _ _).1 lt

/-- The floor of a key stands under the greatest name not above it. -/
theorem Ordered.floorIndex?_eq_some_iff_greatest (ordered : t.Ordered) {key : String} {i : Nat} :
    t.floorIndex? key = some i ↔
      ∃ e, t.entries[i]? = some e ∧ e.1 ≤ key ∧ ∀ name ∈ t.names, name ≤ key → name ≤ e.1 := by
  constructor
  · intro found
    obtain ⟨e, stored⟩ := Option.ne_none_iff_exists'.1 (getElem?_of_floorIndex? found)
    obtain ⟨_, low, greatest⟩ := ordered.floor?_eq_some_iff.1 (floor?_of_floorIndex? found stored)
    refine ⟨e, stored, low, fun name named upTo => ?_⟩
    obtain ⟨value, mem⟩ := mem_names_iff.1 named
    exact greatest (name, value) mem upTo
  · rintro ⟨e, stored, low, greatest⟩
    have mem := Array.mem_toList_iff.2 (Array.mem_of_getElem? stored)
    have floor : t.floor? key = some e :=
      ordered.floor?_eq_some_iff.2 ⟨mem, low, fun e' mem' => greatest e'.1 (mem_names_of_mem mem')⟩
    obtain ⟨j, found, there⟩ := Option.bind_eq_some_iff.1 floor
    rw [found, ordered.index_unique there stored]

/-- **A table is a faithful ordered set.** After any list of changes it has exactly the names
inserted and not erased since, with the values they came with, in the order of their bytes.
A name can be inserted just if it is not there and erased just if it is, and both leave
every other entry as it was. For every key the index found is that of the greatest name not
above it, and the entry found is the one under that name. -/
theorem ofChanges_faithful (changes : List (Change β)) :
    let t := ofChanges changes
    t.names.Pairwise (fun a b => Text.bytes a < Text.bytes b) ∧
    (∀ name, name ∈ t.names ↔ Inserted changes name) ∧
    (∀ name value, (name, value) ∈ t.toList ↔ InsertedWith changes name value) ∧
    (∀ name value,
      ((t.insert? name value).isSome ↔ ¬ Inserted changes name) ∧
      ∀ next, t.insert? name value = some next →
        ∃ front back, t.toList = front ++ back ∧ next.toList = front ++ (name, value) :: back) ∧
    (∀ name,
      ((t.erase? name).isSome ↔ Inserted changes name) ∧
      ∀ next, t.erase? name = some next →
        ∃ front value back, t.toList = front ++ (name, value) :: back ∧
          next.toList = front ++ back) ∧
    ∀ key,
      (∀ i, t.floorIndex? key = some i ↔
        ∃ e, t.entries[i]? = some e ∧ Text.bytes e.1 ≤ Text.bytes key ∧
          ∀ name ∈ t.names, Text.bytes name ≤ Text.bytes key → Text.bytes name ≤ Text.bytes e.1) ∧
      (t.floorIndex? key = none ↔ ∀ name ∈ t.names, Text.bytes key < Text.bytes name) ∧
      (∀ e, t.entry? key = some e ↔ e ∈ t.toList ∧ e.1 = key) ∧
      (t.entry? key = none ↔ key ∉ t.names) := by
  intro t
  obtain ⟨ordered, named, stored⟩ : t.Mirrors changes := mirrors_ofChanges changes
  refine ⟨ordered.bytes_lt, named, stored, fun name value => ⟨?_, fun next done => ?_⟩,
    fun name => ⟨?_, fun next done => ordered.splice_of_erase? done⟩,
    fun key => ⟨fun i => ?_, ?_, fun e => ordered.entry?_eq_some_iff, ?_⟩⟩
  · rw [Option.isSome_iff_ne_none, Ne, ordered.insert?_eq_none_iff, named]
  · obtain ⟨front, back, whole, spliced, _⟩ := ordered.splice_of_insert? done
    exact ⟨front, back, whole, spliced⟩
  · rw [Option.isSome_iff_ne_none, Ne, ordered.erase?_eq_none_iff, named, not_not]
  · simp only [ordered.floorIndex?_eq_some_iff_greatest, Text.le_iff_bytes_le]
  · simp only [ordered.floorIndex?_eq_none_iff, names, List.forall_mem_map, Text.lt_iff_bytes_lt]
  · rw [← ordered.isSome_entry?_iff, Option.not_isSome_iff_eq_none]

/-- A name that is there keeps its value, and one that was erased comes with a new one. -/
example :
    (ofChanges [.insert "/b" 1, .insert "" 2, .insert "" 3, .erase "/b", .insert "/b" 4]).toList =
      [("", 2), ("/b", 4)] := by decide +kernel

end VirtualHosting.Table
