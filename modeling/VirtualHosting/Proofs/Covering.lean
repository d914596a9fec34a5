/-
# Proofs.Covering — the most specific name that reaches a path

A search for a covering name never compares all names: it looks at the greatest
one not above the path, then at the greatest not above the path cut behind the
deepest name, then at ever shorter paths. Each cut is at a slash, and no name
that reaches the path is lost by it; and a name that covers what it was found
for is the longest that does, since all of them are prefixes of one path.

* `Reaches.parent`, `Reaches.cutAtNth`: the cuts lose no name;
* `mostSpecific_floor`: a greatest name that covers is the most specific;
* `Ordered.covering?_eq_some_iff`: the search finds the most specific name;
* `Ordered.covering?_insert?`: one more name changes nothing but what it claims.
-/
import Mathlib.Data.List.MinMax
import VirtualHosting.Proofs.Slice
import VirtualHosting.Proofs.Table

namespace VirtualHosting

set_option autoImplicit false

namespace Slash

/-! ## Cutting characters -/

/-- What precedes the last slash, which has no slash behind it. -/
theorem upToLast_append (front : List Char) {back : List Char} (plain : '/' ∉ back) :
    upToLast (front ++ '/' :: back) = front := by
  rw [upToLast, Text.dropWhile_reverse_append front plain, List.tail_cons, List.reverse_reverse]

theorem upToLast_of_not_mem {cs : List Char} (plain : '/' ∉ cs) : upToLast cs = [] := by
  have passed := Text.bne_of_not_mem (mt List.mem_reverse.1 plain)
  rw [upToLast, ← List.append_nil cs.reverse, List.dropWhile_append_of_pos passed]
  rfl

theorem upToNth_cases (n : Nat) (cs : List Char) :
    upToNth n cs = cs ∨ ∃ rest, cs = upToNth n cs ++ '/' :: rest := by
  induction cs generalizing n with
  | nil => exact .inl rfl
  | cons c cs ih =>
    unfold upToNth
    split
    · rename_i slash
      subst slash
      split
      · exact .inr ⟨cs, rfl⟩
      · exact .inr ⟨cs, rfl⟩
      · rename_i n
        rcases ih (n + 1) with whole | ⟨rest, cut⟩
        · exact .inl (congrArg _ whole)
        · exact .inr ⟨rest, congrArg _ cut⟩
    · rcases ih n with whole | ⟨rest, cut⟩
      · exact .inl (congrArg _ whole)
      · exact .inr ⟨rest, congrArg _ cut⟩

/-- A cut behind the slashes of `lead` and the one after it keeps `lead`. -/
theorem upToNth_append (lead rest : List Char) {n : Nat} (few : lead.count '/' ≤ n) :
    upToNth (n + 1) (lead ++ '/' :: rest) = lead ∨
      ∃ rest', upToNth (n + 1) (lead ++ '/' :: rest) = lead ++ '/' :: rest' := by
  induction lead generalizing n with
  | nil =>
    cases n with
    | zero => exact .inl rfl
    | succ n => exact .inr ⟨upToNth (n + 1) rest, rfl⟩
  | cons c lead ih =>
    by_cases slash : c = '/'
    · subst slash
      rw [List.count_cons_self] at few
      obtain ⟨m, rfl⟩ : ∃ m, n = m + 1 := ⟨n - 1, by omega⟩
      have step (cs : List Char) : upToNth (m + 2) ('/' :: cs) = '/' :: upToNth (m + 1) cs := rfl
      rw [List.cons_append, step]
      rcases ih (n := m) (by omega) with whole | ⟨rest', cut⟩
      · exact .inl (congrArg _ whole)
      · exact .inr ⟨rest', congrArg _ cut⟩
    · rw [List.count_cons_of_ne slash] at few
      have step (cs : List Char) : upToNth (n + 1) (c :: cs) = c :: upToNth (n + 1) cs := by
        rw [upToNth.eq_def]
        exact if_neg slash
      rw [List.cons_append, step]
      rcases ih few with whole | ⟨rest', cut⟩
      · exact .inl (congrArg _ whole)
      · exact .inr ⟨rest', congrArg _ cut⟩

/-! ## Names that reach a path -/

/-- A name reaches a path if it is the path, what precedes one of its slashes, or
nothing. -/
def Reaches (name path : String) : Prop :=
  name = "" ∨ path = name ∨ ∃ rest : String, path = name ++ "/" ++ rest

variable {name other path : String}

theorem reaches_of_covers (covered : covers name path = true) : Reaches name path :=
  .inr ((covers_iff name path).1 covered)

theorem Reaches.covers (reach : Reaches name path) (named : name ≠ "") :
    Slash.covers name path = true :=
  (covers_iff name path).2 (reach.resolve_left named)

instance (name path : String) : Decidable (Reaches name path) :=
  decidable_of_iff (name = "" ∨ Slash.covers name path = true) <| by
    rw [Reaches, covers_iff]

theorem reaches_self (path : String) : Reaches path path :=
  .inr (.inl rfl)

theorem reaches_empty_iff : Reaches name "" ↔ name = "" := by
  constructor
  · rintro (rfl | rfl | ⟨rest, broken⟩)
    · rfl
    · rfl
    · have letters := congrArg String.toList broken
      simp at letters
  · exact .inl

theorem Reaches.trans (first : Reaches other name) (second : Reaches name path) :
    Reaches other path := by
  rcases first with rfl | rfl | ⟨rest, rfl⟩
  · exact .inl rfl
  · exact second
  · rcases second with none_left | rfl | ⟨rest', rfl⟩
    · have letters := congrArg String.toList none_left
      simp at letters
    · exact .inr (.inr ⟨rest, rfl⟩)
    · exact .inr (.inr ⟨rest ++ "/" ++ rest', by simp only [String.append_assoc]⟩)

/-- What a name reaches it still reaches with more behind, if it ends before. -/
theorem Reaches.append (reach : Reaches name path) (before : path ≠ name) (more : String) :
    Reaches name (path ++ more) := by
  rcases reach with rfl | rfl | ⟨rest, rfl⟩
  · exact .inl rfl
  · exact absurd rfl before
  · exact .inr (.inr ⟨rest ++ more, by simp only [String.append_assoc]⟩)

theorem Reaches.isPrefix (reach : Reaches name path) : name.toList <+: path.toList := by
  rcases reach with rfl | rfl | ⟨rest, rfl⟩
  · exact List.nil_prefix
  · exact List.prefix_rfl
  · simp [List.append_assoc]

theorem Reaches.le (reach : Reaches name path) : name ≤ path :=
  not_lt.1 fun above => reach.isPrefix.le (String.lt_iff_toList_lt.1 above)

/-- Of two names that reach one path the greater is the longer. -/
theorem Reaches.length_le (reach : Reaches name path) (reach' : Reaches other path)
    (below : name ≤ other) : name.length ≤ other.length := by
  simp only [← String.length_toList]
  rcases List.prefix_or_prefix_of_prefix reach.isPrefix reach'.isPrefix with short | long
  · exact short.length_le
  · have above : other ≤ name := not_lt.1 fun above => long.le (String.lt_iff_toList_lt.1 above)
    rw [le_antisymm below above]

theorem Reaches.eq_of_length_eq (reach : Reaches name path) (reach' : Reaches other path)
    (same : name.length = other.length) : name = other := by
  simp only [← String.length_toList] at same
  apply String.toList_inj.1
  have prefixes := List.prefix_of_prefix_length_le reach.isPrefix reach'.isPrefix same.le
  exact prefixes.eq_of_length same

theorem reaches_parent (path : String) : Reaches (parent path) path := by
  by_cases slash : '/' ∈ path.toList
  · obtain ⟨front, back, split, plain⟩ := Text.exists_last slash
    refine .inr (.inr ⟨String.ofList back, String.toList_inj.1 ?_⟩)
    rw [parent, split, upToLast_append front plain]
    simp
  · exact .inl (by rw [parent, upToLast_of_not_mem slash, String.ofList_nil])

theorem reaches_cutAtNth (n : Nat) (path : String) : Reaches (cutAtNth n path) path := by
  rcases upToNth_cases n path.toList with whole | ⟨rest, cut⟩
  · exact .inr (.inl (by rw [cutAtNth, whole, String.ofList_toList]))
  · refine .inr (.inr ⟨String.ofList rest, String.toList_inj.1 ?_⟩)
    simpa [cutAtNth] using cut

/-- Dropping a segment loses no name but the path itself. -/
theorem Reaches.parent (reach : Reaches name path) (shorter : path ≠ name) :
    Reaches name (parent path) := by
  rcases reach with rfl | same | ⟨rest, rfl⟩
  · exact .inl rfl
  · exact absurd same shorter
  · have letters : (name ++ "/" ++ rest).toList = name.toList ++ '/' :: rest.toList := by simp
    rw [Slash.parent, letters]
    by_cases slash : '/' ∈ rest.toList
    · -- the last slash comes after the one behind the name
      obtain ⟨front, back, split, plain⟩ := Text.exists_last slash
      have later : name.toList ++ '/' :: rest.toList =
          (name.toList ++ '/' :: front) ++ '/' :: back := by simp [split]
      refine .inr (.inr ⟨String.ofList front, String.toList_inj.1 ?_⟩)
      rw [later, upToLast_append _ plain]
      simp
    · rw [upToLast_append _ slash, String.ofList_toList]
      exact reaches_self name

/-- Cutting a path behind as many slashes as a name has, and one more, does not
lose the name. -/
theorem Reaches.cutAtNth (reach : Reaches name path) {n : Nat} (few : count name ≤ n) :
    Reaches name (cutAtNth (n + 1) path) := by
  rcases reach with rfl | rfl | ⟨rest, rfl⟩
  · exact .inl rfl
  · rw [Slash.cutAtNth, upToNth_eq_self _ _ (Nat.lt_succ_of_le few), String.ofList_toList]
    exact reaches_self path
  · have letters : (name ++ "/" ++ rest).toList = name.toList ++ '/' :: rest.toList := by simp
    rw [Slash.cutAtNth, letters]
    rcases upToNth_append name.toList rest.toList few with whole | ⟨rest', cut⟩
    · rw [whole, String.ofList_toList]
      exact reaches_self name
    · refine .inr (.inr ⟨String.ofList rest', String.toList_inj.1 ?_⟩)
      rw [cut]
      simp

end Slash

namespace Table

variable {β : Type} {t : Table β} {path path' : String} {e e' : String × β}

/-! ## The most specific entry -/

/-- The entry under the longest name that reaches the path. -/
structure MostSpecific (t : Table β) (path : String) (e : String × β) : Prop where
  mem : e ∈ t.toList
  reaches : Slash.Reaches e.1 path
  longest : ∀ name ∈ t.names, Slash.Reaches name path → name.length ≤ e.1.length

/-- No path has two most specific entries. -/
theorem MostSpecific.unique (ordered : t.Ordered) (best : t.MostSpecific path e)
    (best' : t.MostSpecific path e') : e = e' := by
  have short := best'.longest e.1 (mem_names_of_mem best.mem) best.reaches
  have short' := best.longest e'.1 (mem_names_of_mem best'.mem) best'.reaches
  have same := best.reaches.eq_of_length_eq best'.reaches (le_antisymm short short')
  exact ordered.eq_of_mem best.mem best'.mem same

/-- A path that any name reaches has a most specific entry. -/
theorem exists_mostSpecific {name : String} (named : name ∈ t.names)
    (reach : Slash.Reaches name path) : ∃ e, t.MostSpecific path e := by
  have kept {other : String} (mem : other ∈ t.names) (reach : Slash.Reaches other path) :
      other ∈ t.names.filter fun n => Slash.Reaches n path :=
    List.mem_filter.2 ⟨mem, by simpa using reach⟩
  obtain ⟨top, longest⟩ := Option.ne_none_iff_exists'.1
    (mt (List.argmax_eq_none (f := String.length)).1 (List.ne_nil_of_mem (kept named reach)))
  obtain ⟨mem, reach⟩ := List.mem_filter.1 (List.argmax_mem longest)
  obtain ⟨value, mem⟩ := mem_names_iff.1 mem
  refine ⟨(top, value), mem, by simpa using reach, fun other mem' reach' => ?_⟩
  exact List.le_of_mem_argmax (kept mem' reach') longest

/-- Only the names that reach a path matter. -/
theorem MostSpecific.congr (alike : ∀ name ∈ t.names,
    (Slash.Reaches name path ↔ Slash.Reaches name path')) (best : t.MostSpecific path e) :
    t.MostSpecific path' e where
  mem := best.mem
  reaches := (alike e.1 (mem_names_of_mem best.mem)).1 best.reaches
  longest name mem reach := best.longest name mem ((alike name mem).2 reach)

theorem mostSpecific_congr (alike : ∀ name ∈ t.names,
    (Slash.Reaches name path ↔ Slash.Reaches name path')) :
    t.MostSpecific path e ↔ t.MostSpecific path' e :=
  ⟨.congr alike, .congr fun name mem => (alike name mem).symm⟩

/-- A greatest name that covers is the most specific one. -/
theorem mostSpecific_floor (ordered : t.Ordered) (found : t.floor? path = some e)
    (covered : Slash.covers e.1 path = true) : t.MostSpecific path e := by
  obtain ⟨mem, _, greatest⟩ := ordered.floor?_eq_some_iff.1 found
  have reach := Slash.reaches_of_covers covered
  refine ⟨mem, reach, fun name named reach' => ?_⟩
  obtain ⟨value, mem'⟩ := mem_names_iff.1 named
  exact reach'.length_le reach (greatest (name, value) mem' reach'.le)

/-- Where the greatest name does not cover, no name is the path itself. -/
theorem ne_of_floor (ordered : t.Ordered) (found : t.floor? path = some e)
    (missed : Slash.covers e.1 path ≠ true) : ∀ name ∈ t.names, path ≠ name := by
  rintro name named rfl
  obtain ⟨_, below, greatest⟩ := ordered.floor?_eq_some_iff.1 found
  obtain ⟨value, mem⟩ := mem_names_iff.1 named
  have same : e.1 = path := le_antisymm below (greatest (path, value) mem le_rfl)
  exact missed (same ▸ Slash.covers_self e.1)

/-- Where no name is below a path, none reaches it. -/
theorem not_mostSpecific_of_floor (ordered : t.Ordered) (missing : t.floor? path = none) :
    ¬ t.MostSpecific path e := by
  intro best
  have above := ordered.floor?_eq_none_iff.1 missing e best.mem
  exact absurd best.reaches.le (not_le.2 above)

/-! ## The search -/

theorem floor?_of_floorIndex? {i : Nat} (found : t.floorIndex? path = some i)
    (stored : t.entries[i]? = some e) : t.floor? path = some e := by
  rw [floor?, found]
  exact stored

theorem getElem?_of_floorIndex? {i : Nat} (found : t.floorIndex? path = some i) :
    t.entries[i]? ≠ none := by
  intro outside
  rw [Array.getElem?_eq_none_iff] at outside
  exact absurd (t.floorIndex?_lt path i found) (not_lt.2 outside)

theorem floor?_of_floorIndex?_none (missing : t.floorIndex? path = none) :
    t.floor? path = none := by
  rw [floor?, missing]
  rfl

/-- Shorter and shorter paths lead to the most specific entry. -/
theorem Ordered.descend?_eq_some_iff (ordered : t.Ordered) (path : String) (e : String × β) :
    (t.descend? path).bind (t.entries[·]?) = some e ↔ t.MostSpecific path e := by
  fun_induction t.descend? path with
  | case1 path missing =>
    have none_below := not_mostSpecific_of_floor (e := e) ordered
      (floor?_of_floorIndex?_none missing)
    simp [none_below]
  | case2 path i found outside => exact absurd outside (getElem?_of_floorIndex? found)
  | case3 path i found name value stored covered =>
    have best := mostSpecific_floor ordered (floor?_of_floorIndex? found stored) covered
    rw [Option.bind_some, stored, Option.some_inj]
    constructor
    · rintro rfl
      exact best
    · exact best.unique ordered
  | case4 path i found name value stored missed bare =>
    have other := ne_of_floor ordered (floor?_of_floorIndex? found stored) missed
    have none_reaches : ¬ t.MostSpecific path e := by
      intro best
      obtain rfl := String.isEmpty_iff.1 bare
      have same := Slash.reaches_empty_iff.1 best.reaches
      exact other e.1 (mem_names_of_mem best.mem) same.symm
    simp [none_reaches]
  | case5 path i found name value stored missed _ shorter =>
    have other := ne_of_floor ordered (floor?_of_floorIndex? found stored) missed
    rw [shorter]
    refine mostSpecific_congr fun name named => ⟨fun reach => ?_, fun reach => ?_⟩
    · exact reach.trans (Slash.reaches_parent path)
    · exact reach.parent (other name named)

/-- **The search finds the most specific entry**, if no name is deeper than it is
told. -/
theorem Ordered.covering?_eq_some_iff (ordered : t.Ordered) {nesting : Nat}
    (deep : ∀ name ∈ t.names, Slash.count name ≤ nesting) :
    t.covering? path nesting = some e ↔ t.MostSpecific path e := by
  unfold covering? coveringIndex? coveringIndexUpTo?
  split
  · rename_i missing
    have none_below := not_mostSpecific_of_floor (e := e) ordered
      (floor?_of_floorIndex?_none missing)
    simp [none_below]
  · rename_i i found
    split
    · rename_i outside
      exact absurd outside (getElem?_of_floorIndex? found)
    · rename_i name value stored
      split
      · rename_i covered
        have best := mostSpecific_floor ordered (floor?_of_floorIndex? found stored) covered
        rw [Option.bind_some, stored, Option.some_inj]
        constructor
        · rintro rfl
          exact best
        · exact best.unique ordered
      · rw [ordered.descend?_eq_some_iff]
        refine mostSpecific_congr fun name named => ⟨fun reach => ?_, fun reach => ?_⟩
        · exact reach.trans (Slash.reaches_cutAtNth _ path)
        · exact reach.cutAtNth (deep name named)

/-- The search fails only where no name reaches the path. -/
theorem Ordered.covering?_eq_none_iff (ordered : t.Ordered) {nesting : Nat}
    (deep : ∀ name ∈ t.names, Slash.count name ≤ nesting) :
    t.covering? path nesting = none ↔ ∀ name ∈ t.names, ¬ Slash.Reaches name path := by
  rw [Option.eq_none_iff_forall_ne_some]
  constructor
  · intro missing name named reach
    obtain ⟨e, best⟩ := exists_mostSpecific named reach
    exact missing e ((ordered.covering?_eq_some_iff deep).2 best)
  · intro unreached e found
    have best := (ordered.covering?_eq_some_iff deep).1 found
    exact unreached e.1 (mem_names_of_mem best.mem) best.reaches

/-- What is most specific among more names is so among fewer, if it is there. -/
theorem MostSpecific.of_subset {next : Table β} (best : next.MostSpecific path e)
    (there : e ∈ t.toList) (fewer : ∀ name ∈ t.names, name ∈ next.names) :
    t.MostSpecific path e where
  mem := there
  reaches := best.reaches
  longest name named reach := best.longest name (fewer name named) reach

/-- **A search with one more entry finds what it found before, or that entry.** -/
theorem Ordered.covering?_insert? (ordered : t.Ordered) {nesting : Nat}
    (deep : t.HasNesting nesting) {name : String} {value : β} {next : Table β}
    (inserted : t.insert? name value = some next) (path : String) :
    next.covering? path (max nesting (Slash.count name)) = t.covering? path nesting ∨
      next.covering? path (max nesting (Slash.count name)) = some (name, value) ∧
        Slash.Reaches name path := by
  have nextOrdered := ordered.insert? inserted
  have deeper := deep.insert? ordered inserted
  have fewer (other : String) (named : other ∈ t.names) : other ∈ next.names :=
    (ordered.mem_names_insert? inserted).2 (.inr named)
  cases found : next.covering? path (max nesting (Slash.count name)) with
  | none =>
    left
    have unreached := (nextOrdered.covering?_eq_none_iff deeper.1).1 found
    exact ((ordered.covering?_eq_none_iff deep.1).2 fun other named =>
      unreached other (fewer other named)).symm
  | some e =>
    have best := (nextOrdered.covering?_eq_some_iff deeper.1).1 found
    rcases (ordered.mem_insert? inserted).1 best.mem with rfl | there
    · exact .inr ⟨rfl, best.reaches⟩
    · left
      exact ((ordered.covering?_eq_some_iff deep.1).2 (best.of_subset there fewer)).symm

end Table

end VirtualHosting
