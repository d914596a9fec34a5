/-
# Proofs.CoveringIndex — the search for a covering name, round by round

The index that a search for a covering name returns is that of the most specific
entry, for every bound on the slashes of the names that is one; so the bound only
saves rounds. For this the bound and the slash after it must fit into a word. The
greatest word does not: nothing comes after it but zero, the path is cut at its first
slash, and names between are passed over.

The search is a loop, and `Rounds` says what it does one round at a time. It ends for
every word, whether or not that is a bound, since each round but the first drops a
slash, and on the empty path the search finds something or nothing is there.

* `Rounds.unique`, `Rounds.reaches`: there is one run, and it ends at a name that
  reaches the path;
* `Ordered.exists_rounds`: the search is that run, and it is as long as the path has
  slashes, and three rounds more at most;
* `Ordered.coveringIndex?_eq_some_iff`: with a bound it finds the most specific entry.
-/
import VirtualHosting.Proofs.Covering

namespace VirtualHosting

set_option autoImplicit false

namespace Slash

variable {name path : String}

theorem Reaches.count_le (reach : Reaches name path) : count name ≤ count path :=
  reach.isPrefix.sublist.count_le '/'

/-- A path without its last segment has a slash less, or nothing is left of it. -/
theorem count_parent (path : String) :
    parent path = "" ∨ count path = count (parent path) + 1 := by
  by_cases slash : '/' ∈ path.toList
  · obtain ⟨front, back, split, plain⟩ := Text.exists_last slash
    right
    have dropped : (parent path).toList = front := by
      rw [parent, split, upToLast_append front plain, String.toList_ofList]
    rw [count, count, dropped, split, List.count_append, List.count_cons_self,
      List.count_eq_zero_of_not_mem plain]
  · left
    rw [parent, upToLast_of_not_mem slash, String.ofList_nil]

end Slash

namespace Table

variable {β : Type} {t : Table β} {path : String} {cut : Nat}

/-! ## Rounds -/

/-- What comes of a search that is at `path`, and after how many rounds. A round asks
for the greatest name not above the path. It is the last if there is none or if that
covers the path. If not, the path is cut, at its slash number `cut` the first time and
at its last slash from then on. -/
inductive Rounds (t : Table β) (cut : Nat) : Bool → String → Option Nat → Nat → Prop where
  | exhausted {narrowed : Bool} {path : String} (missing : t.floorIndex? path = none) :
      Rounds t cut narrowed path none 1
  | found {narrowed : Bool} {path : String} {i : Nat} {e : String × β}
      (below : t.floorIndex? path = some i) (stored : t.entries[i]? = some e)
      (covered : Slash.covers e.1 path = true) : Rounds t cut narrowed path (some i) 1
  | narrow {narrowed : Bool} {path : String} {i : Nat} {e : String × β} {answer : Option Nat}
      {rounds : Nat} (below : t.floorIndex? path = some i) (stored : t.entries[i]? = some e)
      (missed : Slash.covers e.1 path ≠ true)
      (rest : Rounds t cut true
        (if narrowed then Slash.parent path else Slash.cutAtNth cut path) answer rounds) :
      Rounds t cut narrowed path answer (rounds + 1)

/-- Every round is determined by the one before. -/
theorem Rounds.unique {narrowed : Bool} {answer answer' : Option Nat} {rounds rounds' : Nat}
    (run : t.Rounds cut narrowed path answer rounds)
    (run' : t.Rounds cut narrowed path answer' rounds') : answer' = answer ∧ rounds' = rounds := by
  induction run generalizing answer' rounds' with
  | exhausted missing =>
    cases run' with
    | exhausted => exact ⟨rfl, rfl⟩
    | found below | narrow below => cases missing.symm.trans below
  | found below stored covered =>
    cases run' with
    | exhausted missing => cases missing.symm.trans below
    | found below' => exact ⟨below'.symm.trans below, rfl⟩
    | narrow below' stored' missed =>
      cases below.symm.trans below'
      cases stored.symm.trans stored'
      exact absurd covered missed
  | narrow below stored missed rest same =>
    cases run' with
    | exhausted missing => cases missing.symm.trans below
    | found below' stored' covered =>
      cases below.symm.trans below'
      cases stored.symm.trans stored'
      exact absurd covered missed
    | narrow _ _ _ rest' =>
      obtain ⟨rfl, rfl⟩ := same rest'
      exact ⟨rfl, rfl⟩

/-- Every round asks for a path that reaches the one before, so whatever is found
reaches the first. -/
theorem Rounds.reaches {narrowed : Bool} {i rounds : Nat}
    (run : t.Rounds cut narrowed path (some i) rounds) :
    ∃ e, t.entries[i]? = some e ∧ Slash.Reaches e.1 path := by
  generalize answered : some i = answer at run
  induction run with
  | exhausted => cases answered
  | found _ stored covered =>
    cases answered
    exact ⟨_, stored, Slash.reaches_of_covers covered⟩
  | @narrow narrowed path _ _ _ _ _ _ _ _ reached =>
    obtain ⟨e, stored, reach⟩ := reached answered
    refine ⟨e, stored, reach.trans ?_⟩
    cases narrowed with
    | true => exact Slash.reaches_parent path
    | false => exact Slash.reaches_cutAtNth cut path

/-! ## The search ends -/

/-- On the empty path a search finds something at once, or nothing is there. -/
theorem Ordered.covers_empty (ordered : t.Ordered) {i : Nat} {e : String × β}
    (below : t.floorIndex? "" = some i) (stored : t.entries[i]? = some e) :
    Slash.covers e.1 "" = true := by
  obtain ⟨_, least, _⟩ := ordered.floor?_eq_some_iff.1 (floor?_of_floorIndex? below stored)
  have bare : e.1 = "" := le_antisymm least (Slash.Reaches.le (.inl rfl))
  rw [bare]
  exact Slash.covers_self ""

/-- A search that drops segments is a run, of no more rounds than the path has slashes
and two more. -/
theorem Ordered.exists_rounds_descend (ordered : t.Ordered) (cut : Nat) (path : String) :
    ∃ rounds, t.Rounds cut true path (t.descend? path) rounds ∧
      rounds ≤ Slash.count path + 2 ∧ (path = "" → rounds = 1) := by
  fun_induction t.descend? path with
  | case1 path missing => exact ⟨1, .exhausted missing, by omega, fun _ => rfl⟩
  | case2 path i below outside => exact absurd outside (getElem?_of_floorIndex? below)
  | case3 path i below name value stored covered =>
    exact ⟨1, .found below stored covered, by omega, fun _ => rfl⟩
  | case4 path i below name value stored missed bare =>
    obtain rfl := String.isEmpty_iff.1 bare
    exact absurd (ordered.covers_empty below stored) missed
  | case5 path i below name value stored missed nonempty run =>
    obtain ⟨rounds, run, few, last⟩ := run
    refine ⟨rounds + 1, .narrow below stored missed run, ?_, fun bare => ?_⟩
    · rcases Slash.count_parent path with none_left | fewer
      · have := last none_left
        omega
      · omega
    · exact absurd (String.isEmpty_iff.2 bare) nonempty

/-- **The search is the loop, and ends** for any place of the first cut. -/
theorem Ordered.exists_rounds (ordered : t.Ordered) (path : String) (cut : Nat) :
    ∃ rounds ≤ Slash.count path + 3,
      t.Rounds cut false path (t.coveringIndexUpTo? path cut) rounds := by
  unfold coveringIndexUpTo?
  split
  · rename_i missing
    exact ⟨1, by omega, .exhausted missing⟩
  · rename_i i below
    split
    · rename_i outside
      exact absurd outside (getElem?_of_floorIndex? below)
    · rename_i name value stored
      split
      · rename_i covered
        exact ⟨1, by omega, .found below stored covered⟩
      · rename_i missed
        obtain ⟨rounds, run, few, _⟩ :=
          ordered.exists_rounds_descend cut (Slash.cutAtNth cut path)
        have shorter := (Slash.reaches_cutAtNth cut path).count_le
        exact ⟨rounds + 1, by omega, .narrow below stored missed run⟩

/-! ## What the search finds -/

/-- An index of an ordered table is that of its entry. -/
theorem Ordered.index_unique (ordered : t.Ordered) {i j : Nat} {e : String × β}
    (here : t.entries[i]? = some e) (there : t.entries[j]? = some e) : i = j := by
  rw [← Array.getElem?_toList] at here there
  have distinct : t.toList.Nodup := ordered.nodup.of_map _
  have inside := (List.getElem?_eq_some_iff.1 here).1
  exact (List.getElem?_inj inside distinct).1 (here.trans there.symm)

/-- Whatever bounds the slashes of the names, the index is that of the most specific
entry. -/
theorem Ordered.coveringIndex?_eq_some_iff (ordered : t.Ordered) {nesting : Nat}
    (deep : ∀ name ∈ t.names, Slash.count name ≤ nesting) {i : Nat} :
    t.coveringIndex? path nesting = some i ↔
      ∃ e, t.entries[i]? = some e ∧ t.MostSpecific path e := by
  have whole {e : String × β} : t.covering? path nesting = some e ↔ t.MostSpecific path e :=
    ordered.covering?_eq_some_iff deep
  constructor
  · intro found
    obtain ⟨rounds, _, run⟩ := ordered.exists_rounds path (nesting + 1)
    rw [← coveringIndex?, found] at run
    obtain ⟨e, stored, _⟩ := run.reaches
    exact ⟨e, stored, whole.1 (by rw [covering?, found]; exact stored)⟩
  · rintro ⟨e, stored, best⟩
    obtain ⟨j, found, there⟩ := Option.bind_eq_some_iff.1 (whole.2 best)
    rw [found, ordered.index_unique there stored]

theorem Ordered.coveringIndex?_eq_none_iff (ordered : t.Ordered) {nesting : Nat}
    (deep : ∀ name ∈ t.names, Slash.count name ≤ nesting) :
    t.coveringIndex? path nesting = none ↔ ∀ name ∈ t.names, ¬ Slash.Reaches name path := by
  rw [← ordered.covering?_eq_none_iff deep, covering?]
  cases found : t.coveringIndex? path nesting with
  | none => simp
  | some i =>
    obtain ⟨e, stored, _⟩ := (ordered.coveringIndex?_eq_some_iff deep).1 found
    simp [stored]

/-- A word that bounds the slashes of the names and is not the last. -/
structure Bounds (t : Table β) (nesting : UInt64) : Prop where
  deep : ∀ name ∈ t.names, Slash.count name ≤ nesting.toNat
  followed : nesting.toNat + 1 < UInt64.size

theorem Bounds.coveringIndexOfWord?_eq {nesting : UInt64} (bounds : t.Bounds nesting)
    (path : String) :
    t.coveringIndexOfWord? path nesting = t.coveringIndex? path nesting.toNat := by
  have same := t.coveringIndexOfWord?_eq path nesting.toNat bounds.followed
  rwa [UInt64.ofNat_toNat] at same

/-- **The search for a covering name is exact.** With a word that bounds the slashes of
the names and is not the last it finds the index of the most specific entry, or that no
name reaches the path, and so the same with any two. With every word it ends, and what
it finds reaches the path. -/
theorem Ordered.covering_index_exact (ordered : t.Ordered) (path : String) :
    (∀ nesting, t.Bounds nesting →
      (∀ i, t.coveringIndexOfWord? path nesting = some i ↔
        ∃ e, t.entries[i]? = some e ∧ t.MostSpecific path e) ∧
      (t.coveringIndexOfWord? path nesting = none ↔
        ∀ name ∈ t.names, ¬ Slash.Reaches name path)) ∧
    (∀ nesting nesting', t.Bounds nesting → t.Bounds nesting' →
      t.coveringIndexOfWord? path nesting = t.coveringIndexOfWord? path nesting') ∧
    ∀ nesting : UInt64,
      (∃ last ≤ Slash.count path + 3, ∀ answer rounds,
        t.Rounds (nesting + 1).toNat false path answer rounds ↔
          answer = t.coveringIndexOfWord? path nesting ∧ rounds = last) ∧
      ∀ i, t.coveringIndexOfWord? path nesting = some i →
        ∃ e, t.entries[i]? = some e ∧ Slash.Reaches e.1 path := by
  have exact_index (nesting : UInt64) (bounds : t.Bounds nesting) (i : Nat) :
      t.coveringIndexOfWord? path nesting = some i ↔
        ∃ e, t.entries[i]? = some e ∧ t.MostSpecific path e := by
    rw [bounds.coveringIndexOfWord?_eq, ordered.coveringIndex?_eq_some_iff bounds.deep]
  refine ⟨fun nesting bounds => ⟨exact_index nesting bounds, ?_⟩, ?_, fun nesting => ⟨?_, ?_⟩⟩
  · rw [bounds.coveringIndexOfWord?_eq, ordered.coveringIndex?_eq_none_iff bounds.deep]
  · intro nesting nesting' bounds bounds'
    ext i
    rw [exact_index nesting bounds, exact_index nesting' bounds']
  · obtain ⟨last, few, run⟩ := ordered.exists_rounds path (nesting + 1).toNat
    refine ⟨last, few, fun answer rounds => ⟨run.unique, ?_⟩⟩
    rintro ⟨rfl, rfl⟩
    exact run
  · intro i found
    obtain ⟨last, _, run⟩ := ordered.exists_rounds path (nesting + 1).toNat
    rw [← coveringIndexOfWord?, found] at run
    exact run.reaches

/-- Three names, each below the one before. -/
def threeDeep : Table Nat :=
  ⟨#[("/a", 0), ("/a/b", 1), ("/a/b/c", 2)]⟩

theorem ordered_threeDeep : threeDeep.Ordered := by
  unfold Ordered
  decide +kernel

/-- Two bounds, one of them the least, and the entry that both lead to. -/
theorem covering_index_exact_threeDeep :
    threeDeep.MostSpecific "/a/b/x" ("/a/b", 1) ∧
      threeDeep.coveringIndexOfWord? "/a/b/x" 3 = threeDeep.coveringIndexOfWord? "/a/b/x" 1000 ∧
      ∀ name ∈ threeDeep.names, ¬ Slash.Reaches name "/ab" := by
  have least : threeDeep.Bounds 3 := ⟨by decide +kernel, by decide +kernel⟩
  have loose : threeDeep.Bounds 1000 := ⟨by decide +kernel, by decide +kernel⟩
  obtain ⟨found, alike, _⟩ := ordered_threeDeep.covering_index_exact "/a/b/x"
  obtain ⟨missed, _, _⟩ := ordered_threeDeep.covering_index_exact "/ab"
  obtain ⟨e, stored, best⟩ := ((found 3 least).1 1).1 (by decide +kernel)
  have second : threeDeep.entries[1]? = some ("/a/b", 1) := by decide +kernel
  cases second.symm.trans stored
  exact ⟨best, alike 3 1000 least loose, (missed 3 least).2.1 (by decide +kernel)⟩

/-- The greatest word bounds the slashes of all names, and with it the search asks for
nothing between `/a/b/x` and the empty path. -/
theorem covering_missed_by_greatest_word :
    threeDeep.Ordered ∧
      (∀ name ∈ threeDeep.names, Slash.count name ≤ (18446744073709551615 : UInt64).toNat) ∧
      "/a/b" ∈ threeDeep.names ∧ Slash.Reaches "/a/b" "/a/b/x" ∧
      threeDeep.coveringIndexOfWord? "/a/b/x" 18446744073709551615 = none := by
  refine ⟨ordered_threeDeep, by decide +kernel, by decide +kernel, ?_, by decide +kernel⟩
  exact Slash.reaches_of_covers (by decide +kernel)

end Table

end VirtualHosting
