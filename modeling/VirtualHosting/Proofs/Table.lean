/-
# Proofs.Table — an ordered table is a finite map

A table is searched by halving and changed by splicing, and both are right only
while its names ascend. Here that order is put to use once: what a table that is
`Ordered` answers is stated on its list of entries and on `find?`, and little
after this module speaks of an index.

* `Ordered.floorIndex?_eq_some_iff`: a search ends at the last entry up to the key;
* `Ordered.find?_eq_some_iff`: the value found under a name is the one stored there;
* `Ordered.find?_insert?`, `Ordered.find?_erase?`, `Ordered.find?_modify`,
  `Ordered.find?_filter`: each change answers as the map it stands for;
* `Ordered.insert?`, `Ordered.erase?`, `Ordered.filter`: an ordered table stays so.
-/
import Mathlib.Data.String.Basic
import Mathlib.Data.List.Nodup
import Mathlib.Tactic.Order
import VirtualHosting.Proofs.Search
import VirtualHosting.Table

namespace VirtualHosting.Table

set_option autoImplicit false

variable {β : Type} {t next : Table β} {name key : String} {value : β}

/-! ## Names and entries -/

theorem mem_names_iff : name ∈ t.names ↔ ∃ value, (name, value) ∈ t.toList := by
  simp [names]

theorem mem_names_of_mem {e : String × β} (mem : e ∈ t.toList) : e.1 ∈ t.names :=
  List.mem_map_of_mem mem

theorem ordered_iff : t.Ordered ↔ t.toList.Pairwise fun e e' => e.1 < e'.1 :=
  List.pairwise_map

theorem ordered_empty : (empty : Table β).Ordered :=
  List.Pairwise.nil

theorem ordered_singleton (name : String) (value : β) : (singleton name value).Ordered :=
  List.pairwise_singleton _ _

theorem Ordered.nodup (ordered : t.Ordered) : t.names.Nodup :=
  ordered.imp ne_of_lt

/-- A name of an ordered table stands for one entry. -/
theorem Ordered.eq_of_mem (ordered : t.Ordered) {e e' : String × β} (mem : e ∈ t.toList)
    (mem' : e' ∈ t.toList) (same : e.1 = e'.1) : e = e' :=
  List.inj_on_of_nodup_map ordered.nodup mem mem' same

/-! ## The floor of a key -/

/-- Ascending entries fall into those up to a key and those above it. -/
theorem exists_split {entries : List (String × β)}
    (ascending : entries.Pairwise fun e e' => e.1 < e'.1) (key : String) :
    ∃ front back, entries = front ++ back ∧ (∀ e ∈ front, e.1 ≤ key) ∧
      ∀ e ∈ back, key < e.1 := by
  induction entries with
  | nil => exact ⟨[], [], rfl, by simp, by simp⟩
  | cons first rest ih =>
    obtain ⟨least, restAscending⟩ := List.pairwise_cons.1 ascending
    rcases le_or_gt first.1 key with upTo | above
    · obtain ⟨front, back, rfl, low, high⟩ := ih restAscending
      exact ⟨first :: front, back, rfl, List.forall_mem_cons.2 ⟨upTo, low⟩, high⟩
    · refine ⟨[], first :: rest, rfl, by simp, List.forall_mem_cons.2 ⟨above, ?_⟩⟩
      exact fun e mem => above.trans (least e mem)

/-- A search either finds every name above the key, or ends on the last entry
that is not. -/
theorem Ordered.floorIndex?_cases (ordered : t.Ordered) (key : String) :
    (t.floorIndex? key = none ∧ ∀ e ∈ t.toList, key < e.1) ∨
      ∃ before last after, t.toList = before ++ last :: after ∧
        t.floorIndex? key = some before.length ∧ last.1 ≤ key ∧
        (∀ e ∈ before, e.1 < last.1) ∧ ∀ e ∈ after, key < e.1 := by
  have ascending := ordered_iff.1 ordered
  obtain ⟨front, back, whole, low, high⟩ := exists_split ascending key
  have border : t.floorIndex? key = lastOf front.length := by
    rw [floorIndex?, Search.partitionPoint_eq_length whole]
    · simpa using low
    · simpa using high
  rcases List.eq_nil_or_concat front with rfl | ⟨before, last, rfl⟩
  · exact .inl ⟨border, by simpa [whole] using high⟩
  · refine .inr ⟨before, last, back, by simpa using whole, by simpa [lastOf] using border,
      low last (by simp), fun e mem => ?_, high⟩
    rw [whole, List.concat_eq_append, List.append_assoc] at ascending
    exact (List.pairwise_append.1 ascending).2.2 e mem last (by simp)

theorem getElem?_entries_of_toList {before after : List (String × β)} {e : String × β}
    (whole : t.toList = before ++ e :: after) : t.entries[before.length]? = some e := by
  rw [← Array.getElem?_toList, show t.entries.toList = _ from whole]
  simp

/-- The floor of a key is the last entry that is not above it. -/
theorem Ordered.floorIndex?_eq_some_iff (ordered : t.Ordered) {i : Nat} :
    t.floorIndex? key = some i ↔
      ∃ e, t.entries[i]? = some e ∧ e.1 ≤ key ∧
        ∀ j e', i < j → t.entries[j]? = some e' → key < e'.1 := by
  rcases ordered.floorIndex?_cases key with
    ⟨missing, above⟩ | ⟨before, last, after, whole, found, low, _, high⟩
  · simp only [missing, reduceCtorEq, false_iff, not_exists, not_and]
    intro e stored upTo
    exact absurd (above e (Array.mem_toList_iff.2 (Array.mem_of_getElem? stored))) (not_lt.2 upTo)
  · have here := getElem?_entries_of_toList whole
    -- whatever stands behind the last entry up to the key is above it
    have behind {j : Nat} {e : String × β} (later : before.length < j)
        (stored : t.entries[j]? = some e) : key < e.1 := by
      rw [← Array.getElem?_toList, show t.entries.toList = _ from whole,
        List.getElem?_append_right later.le, List.getElem?_cons,
        if_neg (Nat.sub_ne_zero_of_lt later)] at stored
      exact high e (List.mem_of_getElem? stored)
    rw [found, Option.some.injEq]
    constructor
    · rintro rfl
      exact ⟨last, here, low, fun j e later stored => behind later stored⟩
    · rintro ⟨e, stored, upTo, lastUpTo⟩
      rcases Nat.lt_trichotomy i before.length with earlier | same | later
      · exact absurd (lastUpTo before.length last earlier here) (not_lt.2 low)
      · exact same.symm
      · exact absurd (behind later stored) (not_lt.2 upTo)

theorem Ordered.floorIndex?_eq_none_iff (ordered : t.Ordered) :
    t.floorIndex? key = none ↔ ∀ e ∈ t.toList, key < e.1 := by
  rcases ordered.floorIndex?_cases key with
    ⟨missing, above⟩ | ⟨before, last, after, whole, found, low, _, _⟩
  · simpa only [missing, true_iff] using above
  · simp only [found, reduceCtorEq, false_iff, not_forall, not_lt]
    exact ⟨last, by simp [whole], low⟩

/-- The floor of a key is the entry under the greatest name not above it. -/
theorem Ordered.floor?_eq_some_iff (ordered : t.Ordered) {e : String × β} :
    t.floor? key = some e ↔
      e ∈ t.toList ∧ e.1 ≤ key ∧ ∀ e' ∈ t.toList, e'.1 ≤ key → e'.1 ≤ e.1 := by
  rcases ordered.floorIndex?_cases key with
    ⟨missing, above⟩ | ⟨before, last, after, whole, found, low, least, high⟩
  · simp only [floor?, missing, Option.bind_none, reduceCtorEq, false_iff, not_and]
    exact fun mem upTo => absurd (above e mem) (not_lt.2 upTo)
  · have stored : t.floor? key = some last := by
      rw [floor?, found, Option.bind_some, getElem?_entries_of_toList whole]
    rw [stored, Option.some.injEq, whole]
    constructor
    · rintro rfl
      refine ⟨by simp, low, fun e' mem upTo => ?_⟩
      rcases List.mem_append.1 mem with mem | mem
      · exact (least e' mem).le
      · rcases List.mem_cons.1 mem with rfl | mem
        · exact le_rfl
        · exact absurd (high e' mem) (not_lt.2 upTo)
    · rintro ⟨mem, upTo, greatest⟩
      have reached := greatest last (by simp) low
      rcases List.mem_append.1 mem with mem | mem
      · exact absurd (least e mem) (not_lt.2 reached)
      · rcases List.mem_cons.1 mem with rfl | mem
        · rfl
        · exact absurd (high e mem) (not_lt.2 upTo)

theorem Ordered.floor?_eq_none_iff (ordered : t.Ordered) :
    t.floor? key = none ↔ ∀ e ∈ t.toList, key < e.1 := by
  rw [← ordered.floorIndex?_eq_none_iff]
  cases found : t.floorIndex? key with
  | none => simp [floor?, found]
  | some i =>
    obtain ⟨e, stored, _⟩ := ordered.floorIndex?_eq_some_iff.1 found
    simp [floor?, found, stored]

/-! ## Looking a name up -/

theorem Ordered.entry?_eq_some_iff (ordered : t.Ordered) {e : String × β} :
    t.entry? key = some e ↔ e ∈ t.toList ∧ e.1 = key := by
  unfold entry?
  rw [Option.filter_eq_some_iff, ordered.floor?_eq_some_iff, beq_iff_eq]
  constructor
  · rintro ⟨⟨mem, _, _⟩, same⟩
    exact ⟨mem, same⟩
  · rintro ⟨mem, rfl⟩
    exact ⟨⟨mem, le_rfl, fun _ _ upTo => upTo⟩, rfl⟩

/-- **What is found under a name is what is stored there.** -/
theorem Ordered.find?_eq_some_iff (ordered : t.Ordered) :
    t.find? key = some value ↔ (key, value) ∈ t.toList := by
  simp only [find?, Option.map_eq_some_iff, ordered.entry?_eq_some_iff]
  constructor
  · rintro ⟨e, ⟨mem, rfl⟩, rfl⟩
    exact mem
  · intro mem
    exact ⟨_, ⟨mem, rfl⟩, rfl⟩

theorem Ordered.find?_eq_none_iff (ordered : t.Ordered) : t.find? key = none ↔ key ∉ t.names := by
  simp only [Option.eq_none_iff_forall_ne_some, Ne, ordered.find?_eq_some_iff, mem_names_iff,
    not_exists]

theorem Ordered.isSome_find?_iff (ordered : t.Ordered) :
    (t.find? key).isSome ↔ key ∈ t.names := by
  rw [Option.isSome_iff_ne_none, Ne, ordered.find?_eq_none_iff, not_not]

theorem Ordered.isSome_entry?_iff (ordered : t.Ordered) :
    (t.entry? key).isSome ↔ key ∈ t.names := by
  rw [← ordered.isSome_find?_iff, find?, Option.isSome_map]

/-- Two ordered tables that answer alike are one table. -/
theorem Ordered.ext (ordered : t.Ordered) (nextOrdered : next.Ordered)
    (same : ∀ key, t.find? key = next.find? key) : t = next := by
  have members : ∀ e, e ∈ t.toList ↔ e ∈ next.toList := by
    rintro ⟨key, value⟩
    rw [← ordered.find?_eq_some_iff, ← nextOrdered.find?_eq_some_iff, same]
  have asym : ∀ e e' : String × β, e.1 < e'.1 → e'.1 < e.1 → e = e' :=
    fun _ _ lt gt => absurd lt (lt_asymm gt)
  have perm : t.toList.Perm next.toList :=
    (List.perm_ext_iff_of_nodup ordered.nodup.of_map nextOrdered.nodup.of_map).2 members
  have lists := perm.eq_of_pairwise (fun e e' _ _ => asym e e') (ordered_iff.1 ordered)
    (ordered_iff.1 nextOrdered)
  cases t
  cases next
  simpa [toList] using lists

/-! ## Inserting -/

/-- An entry inserted behind as many entries as `front` has stands between
`front` and the rest. -/
theorem toList_insertIdx {front back : List (String × β)} (whole : t.toList = front ++ back)
    (e : String × β) :
    (⟨t.entries.insertIdxIfInBounds front.length e⟩ : Table β).toList = front ++ e :: back := by
  obtain ⟨⟨entries⟩⟩ := t
  obtain rfl : entries = front ++ back := whole
  rw [toList, List.insertIdxIfInBounds_toArray]
  induction front with
  | nil => rfl
  | cons first front ih => simpa using ih

/-- Insertion splices the new name in where the order wants it, and refuses
exactly the names that are there. -/
theorem Ordered.insert?_cases (ordered : t.Ordered) (name : String) (value : β) :
    (t.insert? name value = none ∧ name ∈ t.names) ∨
      ∃ next front back, t.insert? name value = some next ∧ t.toList = front ++ back ∧
        next.toList = front ++ (name, value) :: back ∧ (∀ e ∈ front, e.1 < name) ∧
        ∀ e ∈ back, name < e.1 := by
  rcases ordered.floorIndex?_cases name with
    ⟨missing, above⟩ | ⟨before, last, after, whole, found, low, least, high⟩
  · refine .inr ⟨_, [], t.toList, ?_, rfl, toList_insertIdx rfl (name, value), by simp, above⟩
    rw [insert?, missing]
    rfl
  · by_cases taken : name ∈ t.names
    · refine .inl ⟨?_, taken⟩
      rw [insert?, found]
      simp [ordered.isSome_entry?_iff.2 taken]
    · have lt : last.1 < name := by
        refine lt_of_le_of_ne low fun same => taken ?_
        exact same ▸ mem_names_of_mem (by simp [whole])
      have whole' : t.toList = (before ++ [last]) ++ after := by simp [whole]
      refine .inr ⟨_, before ++ [last], after, ?_, whole', toList_insertIdx whole' (name, value),
        ?_, high⟩
      · rw [insert?, found]
        simp [mt ordered.isSome_entry?_iff.1 taken]
      · intro e mem
        rcases List.mem_append.1 mem with mem | mem
        · exact (least e mem).trans lt
        · rwa [List.mem_singleton.1 mem]

theorem Ordered.insert?_eq_none_iff (ordered : t.Ordered) :
    t.insert? name value = none ↔ name ∈ t.names := by
  rcases ordered.insert?_cases name value with
    ⟨refused, taken⟩ | ⟨next, front, back, done, whole, _, low, high⟩
  · simp [refused, taken]
  · have fresh : name ∉ t.names := by
      simp only [mem_names_iff, whole, List.mem_append, not_exists, not_or]
      exact fun value => ⟨fun mem => lt_irrefl _ (low _ mem), fun mem => lt_irrefl _ (high _ mem)⟩
    simp [done, fresh]

/-- What an insertion that was not refused spliced together. -/
theorem Ordered.splice_of_insert? (ordered : t.Ordered)
    (inserted : t.insert? name value = some next) :
    ∃ front back, t.toList = front ++ back ∧ next.toList = front ++ (name, value) :: back ∧
      (∀ e ∈ front, e.1 < name) ∧ ∀ e ∈ back, name < e.1 := by
  rcases ordered.insert?_cases name value with
    ⟨refused, _⟩ | ⟨_, front, back, done, whole, spliced, low, high⟩
  · rw [refused] at inserted
    cases inserted
  · obtain rfl := Option.some.inj (done.symm.trans inserted)
    exact ⟨front, back, whole, spliced, low, high⟩

theorem Ordered.insert? (ordered : t.Ordered) (inserted : t.insert? name value = some next) :
    next.Ordered := by
  obtain ⟨front, back, whole, spliced, low, high⟩ := ordered.splice_of_insert? inserted
  rw [ordered_iff, whole, List.pairwise_append] at ordered
  rw [ordered_iff, spliced, List.pairwise_append, List.pairwise_cons]
  refine ⟨ordered.1, ⟨high, ordered.2.1⟩, fun e mem e' mem' => ?_⟩
  rcases List.mem_cons.1 mem' with rfl | mem'
  · exact low e mem
  · exact ordered.2.2 e mem e' mem'

theorem Ordered.mem_insert? (ordered : t.Ordered) (inserted : t.insert? name value = some next)
    {e : String × β} : e ∈ next.toList ↔ e = (name, value) ∨ e ∈ t.toList := by
  obtain ⟨front, back, whole, spliced, _, _⟩ := ordered.splice_of_insert? inserted
  rw [spliced, whole, List.mem_append, List.mem_cons, List.mem_append, or_left_comm]

theorem Ordered.mem_names_insert? (ordered : t.Ordered)
    (inserted : t.insert? name value = some next) :
    key ∈ next.names ↔ key = name ∨ key ∈ t.names := by
  simp only [mem_names_iff, ordered.mem_insert? inserted, Prod.mk.injEq, exists_or,
    exists_and_left, exists_eq, and_true]

theorem Ordered.not_mem_of_insert? (ordered : t.Ordered)
    (inserted : t.insert? name value = some next) : name ∉ t.names := by
  intro taken
  have refused : t.insert? name value = none := ordered.insert?_eq_none_iff.2 taken
  cases refused.symm.trans inserted

/-- **An insertion adds one binding.** -/
theorem Ordered.find?_insert? (ordered : t.Ordered)
    (inserted : t.insert? name value = some next) (key : String) :
    next.find? key = if key = name then some value else t.find? key := by
  have nextOrdered := ordered.insert? inserted
  have fresh := ordered.not_mem_of_insert? inserted
  ext found
  rw [nextOrdered.find?_eq_some_iff, ordered.mem_insert? inserted, Prod.mk.injEq]
  split
  · rename_i same
    rw [same, ← ordered.find?_eq_some_iff, ordered.find?_eq_none_iff.2 fresh]
    simp [eq_comm]
  · rename_i other
    simp [other, ordered.find?_eq_some_iff]

/-- A free name can be inserted, and is found from then on. -/
theorem Ordered.exists_insert? (ordered : t.Ordered) (free : t.find? name = none) (value : β) :
    ∃ next, t.insert? name value = some next ∧ next.find? name = some value := by
  cases inserted : t.insert? name value with
  | none =>
    rw [ordered.insert?_eq_none_iff] at inserted
    exact absurd inserted (ordered.find?_eq_none_iff.1 free)
  | some next => exact ⟨next, rfl, (ordered.find?_insert? inserted name).trans (if_pos rfl)⟩

/-! ## Erasing -/

/-- An entry erased behind as many entries as `front` has leaves `front` and the
rest. -/
theorem toList_eraseIdx {front back : List (String × β)} {e : String × β}
    (whole : t.toList = front ++ e :: back) :
    (⟨t.entries.eraseIdxIfInBounds front.length⟩ : Table β).toList = front ++ back := by
  obtain ⟨⟨entries⟩⟩ := t
  obtain rfl : entries = front ++ e :: back := whole
  rw [toList, List.eraseIdxIfInBounds_toArray]
  simp [List.eraseIdx_append_of_length_le]

/-- Erasing cuts out the entry under the name, and refuses a name that is not
there. -/
theorem Ordered.erase?_cases (ordered : t.Ordered) (name : String) :
    (t.erase? name = none ∧ name ∉ t.names) ∨
      ∃ next front value back, t.erase? name = some next ∧
        t.toList = front ++ (name, value) :: back ∧ next.toList = front ++ back := by
  rcases ordered.floorIndex?_cases name with
    ⟨missing, above⟩ | ⟨before, ⟨last, value⟩, after, whole, found, low, least, high⟩
  · refine .inl ⟨by rw [erase?, missing], fun taken => ?_⟩
    obtain ⟨value, mem⟩ := mem_names_iff.1 taken
    exact lt_irrefl _ (above _ mem)
  · by_cases taken : name ∈ t.names
    · have same : last = name := by
        obtain ⟨value', mem⟩ := mem_names_iff.1 taken
        rw [whole] at mem
        rcases List.mem_append.1 mem with mem | mem
        · exact absurd (least _ mem) (not_lt.2 low)
        · rcases List.mem_cons.1 mem with eq | mem
          · exact (congrArg Prod.fst eq).symm
          · exact absurd (high _ mem) (lt_irrefl _)
      subst same
      refine .inr ⟨_, before, value, after, ?_, whole, toList_eraseIdx whole⟩
      rw [erase?, found]
      simp [ordered.isSome_entry?_iff.2 taken]
    · refine .inl ⟨?_, taken⟩
      rw [erase?, found]
      simp [mt ordered.isSome_entry?_iff.1 taken]

theorem Ordered.erase?_eq_none_iff (ordered : t.Ordered) :
    t.erase? name = none ↔ name ∉ t.names := by
  rcases ordered.erase?_cases name with
    ⟨refused, missing⟩ | ⟨next, front, value, back, done, whole, _⟩
  · simp [refused, missing]
  · have there : name ∈ t.names := mem_names_of_mem (e := (name, value)) (by simp [whole])
    simp [done, there]

theorem Ordered.exists_erase? (ordered : t.Ordered) (there : t.find? name = some value) :
    ∃ next, t.erase? name = some next := by
  cases erased : t.erase? name with
  | some next => exact ⟨next, rfl⟩
  | none =>
    have missing := ordered.erase?_eq_none_iff.1 erased
    rw [← ordered.find?_eq_none_iff, there] at missing
    cases missing

/-- What an erasure that was not refused cut out. -/
theorem Ordered.splice_of_erase? (ordered : t.Ordered) (erased : t.erase? name = some next) :
    ∃ front value back, t.toList = front ++ (name, value) :: back ∧
      next.toList = front ++ back := by
  rcases ordered.erase?_cases name with
    ⟨refused, _⟩ | ⟨_, front, value, back, done, whole, spliced⟩
  · rw [refused] at erased
    cases erased
  · obtain rfl := Option.some.inj (done.symm.trans erased)
    exact ⟨front, value, back, whole, spliced⟩

theorem Ordered.erase? (ordered : t.Ordered) (erased : t.erase? name = some next) :
    next.Ordered := by
  obtain ⟨front, value, back, whole, spliced⟩ := ordered.splice_of_erase? erased
  rw [ordered_iff, whole] at ordered
  rw [ordered_iff, spliced]
  exact ordered.sublist (List.Sublist.append_left (List.sublist_cons_self _ _) front)

theorem Ordered.mem_erase? (ordered : t.Ordered) (erased : t.erase? name = some next)
    {e : String × β} : e ∈ next.toList ↔ e ∈ t.toList ∧ e.1 ≠ name := by
  have whole := ordered.splice_of_erase? erased
  have unique := ordered_iff.1 ordered
  obtain ⟨front, value, back, whole, spliced⟩ := whole
  rw [whole, List.pairwise_append, List.pairwise_cons] at unique
  obtain ⟨_, ⟨high, _⟩, low⟩ := unique
  rw [spliced, whole, List.mem_append, List.mem_append, List.mem_cons]
  constructor
  · rintro (mem | mem)
    · exact ⟨.inl mem, (low e mem _ List.mem_cons_self).ne⟩
    · exact ⟨.inr (.inr mem), (high e mem).ne'⟩
  · rintro ⟨mem | rfl | mem, other⟩
    · exact .inl mem
    · exact absurd rfl other
    · exact .inr mem

/-- **An erasure removes one binding.** -/
theorem Ordered.find?_erase? (ordered : t.Ordered) (erased : t.erase? name = some next)
    (key : String) : next.find? key = if key = name then none else t.find? key := by
  have nextOrdered := ordered.erase? erased
  ext found
  rw [nextOrdered.find?_eq_some_iff, ordered.mem_erase? erased]
  split
  · rename_i same
    simp [same]
  · rename_i other
    simp [other, ordered.find?_eq_some_iff]

/-! ## Changing values and dropping entries -/

theorem mem_modify {f : β → β} {e : String × β} :
    e ∈ (t.modify name f).toList ↔
      ∃ value, (e.1, value) ∈ t.toList ∧ e.2 = if e.1 = name then f value else value := by
  obtain ⟨key, value⟩ := e
  simp only [toList, modify, Array.toList_map, List.mem_map, Prod.exists]
  constructor
  · rintro ⟨key', value', mem, same⟩
    split at same <;> rename_i here <;> obtain ⟨rfl, rfl⟩ := Prod.mk.inj same
    · exact ⟨value', mem, by simp [here]⟩
    · exact ⟨value', mem, by simp [here]⟩
  · rintro ⟨value', mem, same⟩
    exact ⟨key, value', mem, by rw [same]; split <;> rfl⟩

/-- **A change of one value touches one binding.** -/
theorem Ordered.find?_modify (ordered : t.Ordered) (name : String) (f : β → β) (key : String) :
    (t.modify name f).find? key =
      if key = name then (t.find? key).map f else t.find? key := by
  have nextOrdered := ordered.modify name f
  ext found
  rw [nextOrdered.find?_eq_some_iff, mem_modify]
  simp only [← ordered.find?_eq_some_iff]
  split
  · rw [Option.map_eq_some_iff]
    exact exists_congr fun value => and_congr_right fun _ => eq_comm
  · simp

theorem mem_filter {keep : String × β → Bool} {e : String × β} :
    e ∈ (t.filter keep).toList ↔ e ∈ t.toList ∧ keep e = true := by
  simp [toList, filter]

theorem Ordered.filter (ordered : t.Ordered) (keep : String × β → Bool) :
    (t.filter keep).Ordered := by
  have kept : (t.filter keep).toList = t.toList.filter keep := by simp [toList, Table.filter]
  rw [ordered_iff, kept]
  exact (ordered_iff.1 ordered).sublist List.filter_sublist

/-- **A filter keeps the bindings that pass it.** -/
theorem Ordered.find?_filter (ordered : t.Ordered) (keep : String × β → Bool) (key : String) :
    (t.filter keep).find? key = (t.find? key).filter fun value => keep (key, value) := by
  ext found
  rw [(ordered.filter keep).find?_eq_some_iff, mem_filter, Option.filter_eq_some_iff,
    ordered.find?_eq_some_iff]

@[simp]
theorem find?_singleton (name : String) (value : β) (key : String) :
    (singleton name value).find? key = if key = name then some value else none := by
  ext found
  rw [(ordered_singleton name value).find?_eq_some_iff]
  simp only [toList, singleton, List.mem_singleton, Prod.mk.injEq]
  split <;> simp_all [eq_comm]

theorem isEmpty_iff : t.isEmpty = true ↔ t.toList = [] := by
  simp [isEmpty, toList]

/-! ## Entries that are found -/

variable {e : String × β}

theorem mem_of_entry? (found : t.entry? key = some e) : e ∈ t.toList := by
  obtain ⟨i, _, stored⟩ := Option.bind_eq_some_iff.1 (Option.filter_eq_some_iff.1 found).1
  exact Array.mem_toList_iff.2 (Array.mem_of_getElem? stored)

theorem mem_of_entryFolded? (found : t.entryFolded? key = some e) : e ∈ t.toList := by
  obtain ⟨i, _, stored⟩ := Option.bind_eq_some_iff.1 (Option.filter_eq_some_iff.1 found).1
  exact Array.mem_toList_iff.2 (Array.mem_of_getElem? stored)

theorem mem_of_first? (first : t.first? = some e) : e ∈ t.toList :=
  Array.mem_toList_iff.2 (Array.mem_of_getElem? first)

/-- The last entry of an ordered table has the greatest name. -/
theorem Ordered.last?_greatest (ordered : t.Ordered) (some_left : t.names ≠ []) :
    ∃ e, t.last? = some e ∧ e ∈ t.toList ∧ ∀ name ∈ t.names, name ≤ e.1 := by
  have last : t.last? = t.toList.getLast? := by
    rw [toList, ← List.back?_toArray, Array.toArray_toList, last?]
  rcases List.eq_nil_or_concat' t.toList with none_left | ⟨before, e, whole⟩
  · exact absurd (by rw [names, none_left, List.map_nil]) some_left
  · rw [ordered_iff, whole, List.pairwise_append] at ordered
    refine ⟨e, by rw [last, whole, List.getLast?_concat], by simp [whole], fun name named => ?_⟩
    rw [names, whole, List.map_append, List.mem_append] at named
    rcases named with early | here
    · obtain ⟨e', mem, rfl⟩ := List.mem_map.1 early
      exact (ordered.2.2 e' mem e (List.mem_singleton_self e)).le
    · rw [List.map_singleton, List.mem_singleton] at here
      exact here.le

/-! ## The nesting of a table -/

/-- `most` is the greatest number of slashes in a name of `t`, or zero if there
are no names. -/
def HasNesting (t : Table β) (most : Nat) : Prop :=
  (∀ name ∈ t.names, Slash.count name ≤ most) ∧
    (most = 0 ∨ ∃ name ∈ t.names, Slash.count name = most)

theorem hasNesting_empty : (empty : Table β).HasNesting 0 :=
  ⟨by simp [names, empty, toList], .inl rfl⟩

/-- A running maximum is the start or one of the counts, and is not below any. -/
theorem foldl_max_count (names : List String) (start : Nat) :
    let most := names.foldl (fun most name => max most (Slash.count name)) start
    start ≤ most ∧ (∀ name ∈ names, Slash.count name ≤ most) ∧
      (most = start ∨ ∃ name ∈ names, Slash.count name = most) := by
  induction names generalizing start with
  | nil => simp
  | cons name rest ih =>
    obtain ⟨upTo, bound, attained⟩ := ih (max start (Slash.count name))
    simp only [List.foldl_cons]
    refine ⟨le_of_max_le_left upTo, List.forall_mem_cons.2 ⟨le_of_max_le_right upTo, bound⟩, ?_⟩
    rcases attained with same | ⟨other, mem, count⟩
    · rw [same]
      rcases le_total (Slash.count name) start with le | le
      · exact .inl (max_eq_left le)
      · exact .inr ⟨name, List.mem_cons_self, (max_eq_right le).symm⟩
    · exact .inr ⟨other, List.mem_cons_of_mem _ mem, count⟩

/-- The nesting computed from a table is its nesting. -/
theorem hasNesting_nesting (t : Table β) : t.HasNesting t.nesting := by
  obtain ⟨_, bound, attained⟩ := foldl_max_count t.names 0
  exact ⟨bound, attained⟩

/-- A table has one nesting. -/
theorem HasNesting.unique {most most' : Nat} (deep : t.HasNesting most)
    (deep' : t.HasNesting most') : most = most' := by
  have upTo {least bound : Nat} (attained : t.HasNesting least) (bounds : t.HasNesting bound) :
      least ≤ bound := by
    rcases attained.2 with rfl | ⟨name, named, rfl⟩
    · exact Nat.zero_le _
    · exact bounds.1 name named
  exact le_antisymm (upTo deep deep') (upTo deep' deep)

/-- An insertion raises the nesting to that of the new name, if at all. -/
theorem HasNesting.insert? {most : Nat} (deep : t.HasNesting most) (ordered : t.Ordered)
    (inserted : t.insert? name value = some next) :
    next.HasNesting (max most (Slash.count name)) := by
  simp only [HasNesting, ordered.mem_names_insert? inserted, forall_eq_or_imp]
  refine ⟨⟨le_max_right _ _, fun other mem => (deep.1 other mem).trans (le_max_left _ _)⟩, ?_⟩
  rcases le_total (Slash.count name) most with le | le
  · rw [max_eq_left le]
    exact deep.2.imp_right fun ⟨other, mem, count⟩ => ⟨other, .inr mem, count⟩
  · rw [max_eq_right le]
    exact .inr ⟨name, .inl rfl, rfl⟩

end VirtualHosting.Table
