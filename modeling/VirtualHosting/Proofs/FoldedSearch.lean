/-
# Proofs.FoldedSearch — searches that disregard letter case

A folding search compares folded names with a folded key, over a table whose names may be
written in any letter case. It is an exact search, for the folded key, of the table that has
the folded names in their place (`Table.folded`), and that table is in order where the folded
names ascend. So whatever is known of exact searches is known of folding ones. Where all
names are folded already, both search the same names.

* `floorIndexFolded?_eq_floorIndex?`, `entryFolded?_eq_find?`: a folding search is an exact
  one among the folded names;
* `entryFolded?_eq_entry?`: in a table of folded names it is an exact search of that table;
* `OrderedFolded.folded_search_exact`: what folding searches find, byte by byte.
-/
import VirtualHosting.Proofs.ByteOrder
import VirtualHosting.Proofs.Table

namespace VirtualHosting.Table

set_option autoImplicit false

open Text

variable {β : Type} {t : Table β} {key : String}

/-! ## Folded names -/

/-- The entries under their folded names. -/
def folded (t : Table β) : Table (String × β) :=
  ⟨t.entries.map fun e => (fold e.1, e)⟩

/-- The folded names ascend, byte by byte. -/
def OrderedFolded (t : Table β) : Prop :=
  t.names.Pairwise fun a b => foldedBytes a < foldedBytes b

theorem mem_folded_iff {name : String} {e : String × β} :
    (name, e) ∈ t.folded.toList ↔ e ∈ t.toList ∧ fold e.1 = name := by
  simp only [toList, folded, Array.toList_map, List.mem_map, Prod.mk.injEq]
  constructor
  · rintro ⟨e', mem, named, rfl⟩
    exact ⟨mem, named⟩
  · rintro ⟨mem, named⟩
    exact ⟨e, mem, named, rfl⟩

theorem getElem?_folded (t : Table β) (i : Nat) :
    t.folded.entries[i]? = t.entries[i]?.map fun e => (fold e.1, e) :=
  Array.getElem?_map

theorem names_folded (t : Table β) : t.folded.names = t.names.map fold := by
  simp [names, toList, folded]

theorem OrderedFolded.ordered (ordered : t.OrderedFolded) : t.folded.Ordered := by
  rw [Ordered, names_folded, List.pairwise_map]
  exact List.Pairwise.imp (fun lt => (fold_lt_fold_iff _ _).2 lt) ordered

/-! ## Folding searches as exact ones -/

/-- A folding search is an exact search among the folded names. -/
theorem floorIndexFolded?_eq_floorIndex? (t : Table β) (key : String) :
    t.floorIndexFolded? key = t.folded.floorIndex? (fold key) := by
  have alike : t.entries.toList.map (fun e => compareFolded e.1 key != .gt) =
      t.folded.entries.toList.map (fun e => decide (e.1 ≤ fold key)) := by
    rw [folded, Array.toList_map, List.map_map]
    apply List.map_congr_left
    intro e _
    rw [Bool.eq_iff_iff, bne_iff_ne, compareFolded_ne_gt_iff, Function.comp_apply,
      decide_eq_true_iff]
  rw [floorIndexFolded?, floorIndex?, Search.partitionPoint_congr alike]

theorem entryFolded?_eq_find? (t : Table β) (key : String) :
    t.entryFolded? key = t.folded.find? (fold key) := by
  have floor : t.folded.floor? (fold key) = (t.floorFolded? key).map fun e => (fold e.1, e) := by
    rw [floor?, floorFolded?, floorIndexFolded?_eq_floorIndex?, Option.map_bind]
    exact congrArg _ (funext t.getElem?_folded)
  rw [entryFolded?, find?, entry?, floor]
  cases t.floorFolded? key with
  | none => rfl
  | some e =>
    rw [Option.map_some, Option.filter_some, Option.filter_some, sameFolded]
    split <;> rfl

/-- A search for an index looks at the names alone. -/
theorem floorIndex?_congr {γ : Type} {other : Table γ} (same : t.names = other.names)
    (key : String) : t.floorIndex? key = other.floorIndex? key := by
  have alike := congrArg (List.map fun name => decide (name ≤ key)) same
  rw [names, names, List.map_map, List.map_map] at alike
  exact congrArg lastOf (Search.partitionPoint_congr alike)

/-- Where all names are folded, the folded names are those of the table. -/
theorem floorIndexFolded?_eq_of_folded (folded : ∀ name ∈ t.names, fold name = name)
    (key : String) : t.floorIndexFolded? key = t.floorIndex? (fold key) := by
  have same : t.folded.names = t.names := by
    rw [names_folded, List.map_congr_left folded, List.map_id']
  rw [floorIndexFolded?_eq_floorIndex?, floorIndex?_congr same]

/-- **Where all names are folded, a folding search is an exact search** for the
folded name. -/
theorem entryFolded?_eq_entry? (folded : ∀ name ∈ t.names, fold name = name)
    (key : String) : t.entryFolded? key = t.entry? (fold key) := by
  have floor : t.floorFolded? key = t.floor? (fold key) := by
    rw [floorFolded?, floor?, floorIndexFolded?_eq_of_folded folded]
  rw [entryFolded?, entry?, floor]
  cases found : t.floor? (fold key) with
  | none => rfl
  | some e =>
    have named : e.1 ∈ t.names := by
      obtain ⟨i, _, stored⟩ := Option.bind_eq_some_iff.1 found
      exact mem_names_of_mem (Array.mem_toList_iff.2 (Array.mem_of_getElem? stored))
    rw [Option.filter_some, Option.filter_some, sameFolded, folded e.1 named]

/-! ## What they find -/

theorem OrderedFolded.floorIndexFolded?_eq_some_iff (ordered : t.OrderedFolded) {i : Nat} :
    t.floorIndexFolded? key = some i ↔
      ∃ e, t.entries[i]? = some e ∧ foldedBytes e.1 ≤ foldedBytes key ∧
        ∀ j e', i < j → t.entries[j]? = some e' → foldedBytes key < foldedBytes e'.1 := by
  rw [floorIndexFolded?_eq_floorIndex?, ordered.ordered.floorIndex?_eq_some_iff]
  simp only [getElem?_folded, Option.map_eq_some_iff, ← fold_le_fold_iff, ← fold_lt_fold_iff]
  constructor
  · rintro ⟨_, ⟨e, stored, rfl⟩, upTo, last⟩
    exact ⟨e, stored, upTo, fun j e' later there => last j _ later ⟨e', there, rfl⟩⟩
  · rintro ⟨e, stored, upTo, last⟩
    refine ⟨_, ⟨e, stored, rfl⟩, upTo, ?_⟩
    rintro j _ later ⟨e', there, rfl⟩
    exact last j e' later there

theorem OrderedFolded.floorIndexFolded?_eq_none_iff (ordered : t.OrderedFolded) :
    t.floorIndexFolded? key = none ↔ ∀ e ∈ t.toList, foldedBytes key < foldedBytes e.1 := by
  rw [floorIndexFolded?_eq_floorIndex?, ordered.ordered.floorIndex?_eq_none_iff]
  simp only [← fold_lt_fold_iff]
  constructor
  · intro above e mem
    exact above (fold e.1, e) (mem_folded_iff.2 ⟨mem, rfl⟩)
  · rintro above ⟨name, e⟩ mem
    obtain ⟨stored, rfl⟩ := mem_folded_iff.1 mem
    exact above e stored

theorem OrderedFolded.entryFolded?_eq_some_iff (ordered : t.OrderedFolded) {e : String × β} :
    t.entryFolded? key = some e ↔ e ∈ t.toList ∧ foldedBytes e.1 = foldedBytes key := by
  rw [entryFolded?_eq_find?, ordered.ordered.find?_eq_some_iff, mem_folded_iff, fold_eq_fold_iff]

theorem OrderedFolded.entryFolded?_eq_none_iff (ordered : t.OrderedFolded) :
    t.entryFolded? key = none ↔ ∀ e ∈ t.toList, foldedBytes e.1 ≠ foldedBytes key := by
  simp only [Option.eq_none_iff_forall_ne_some, Ne, ordered.entryFolded?_eq_some_iff, not_and]

/-- **Searches that disregard letter case are exact.** Where the folded names ascend, the
index found is that of the last entry whose folded name is not above the folded key, and
the entry found is the one whose name is the key but for the case of its letters. Where the
names are folded as well, both are what exact searches find for the folded key. -/
theorem OrderedFolded.folded_search_exact (ordered : t.OrderedFolded) (key : String) :
    (∀ i, t.floorIndexFolded? key = some i ↔
      ∃ e, t.entries[i]? = some e ∧ foldedBytes e.1 ≤ foldedBytes key ∧
        ∀ j e', i < j → t.entries[j]? = some e' → foldedBytes key < foldedBytes e'.1) ∧
    (t.floorIndexFolded? key = none ↔ ∀ e ∈ t.toList, foldedBytes key < foldedBytes e.1) ∧
    (∀ e, t.entryFolded? key = some e ↔ e ∈ t.toList ∧ foldedBytes e.1 = foldedBytes key) ∧
    (t.entryFolded? key = none ↔ ∀ e ∈ t.toList, foldedBytes e.1 ≠ foldedBytes key) ∧
    ((∀ name ∈ t.names, fold name = name) →
      t.floorIndexFolded? key = t.floorIndex? (fold key) ∧
        t.entryFolded? key = t.entry? (fold key)) := by
  refine ⟨fun i => ordered.floorIndexFolded?_eq_some_iff, ordered.floorIndexFolded?_eq_none_iff,
    fun e => ordered.entryFolded?_eq_some_iff, ordered.entryFolded?_eq_none_iff, fun folded => ?_⟩
  exact ⟨floorIndexFolded?_eq_of_folded folded key, entryFolded?_eq_entry? folded key⟩

/-- Names whose order is that of their folded forms alone: `_` stands between the capital
letters and the small ones. The letters of the last two are beyond ASCII, and differ. -/
def mixedCase : Table Nat :=
  ⟨#[("a_b", 0), ("aZ", 1), ("Éa", 2), ("éA", 3)]⟩

theorem orderedFolded_mixedCase : mixedCase.OrderedFolded := by
  unfold OrderedFolded
  decide +kernel

/-- The same names folded. -/
def lowerCase : Table Nat :=
  ⟨#[("a_b", 0), ("az", 1), ("Éa", 2), ("éa", 3)]⟩

theorem orderedFolded_lowerCase : lowerCase.OrderedFolded := by
  unfold OrderedFolded
  decide +kernel

/-- A name in other letters, a name that no case of these letters makes one of the table, and
a key behind the first name; in the table of folded names an exact search finds the same. -/
theorem folded_search_exact_mixedCase :
    ¬ mixedCase.Ordered ∧ mixedCase.entryFolded? "éa" = some ("éA", 3) ∧
      mixedCase.entryFolded? "ÈA" = none ∧
      (∃ e, mixedCase.entries[0]? = some e ∧ foldedBytes e.1 ≤ foldedBytes "AA" ∧
        ∀ j e', 0 < j → mixedCase.entries[j]? = some e' →
          foldedBytes "AA" < foldedBytes e'.1) ∧
      lowerCase.entryFolded? "AZ" = lowerCase.entry? (fold "AZ") := by
  have finds := orderedFolded_mixedCase.folded_search_exact
  have alike := (orderedFolded_lowerCase.folded_search_exact "AZ").2.2.2.2
  refine ⟨by unfold Ordered; decide +kernel, ((finds "éa").2.2.1 _).2 (by decide +kernel),
    (finds "ÈA").2.2.2.1.2 (by decide +kernel), ((finds "AA").1 0).1 (by decide +kernel), ?_⟩
  exact (alike (by decide +kernel)).2

end VirtualHosting.Table
