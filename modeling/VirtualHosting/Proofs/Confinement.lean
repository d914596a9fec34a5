/-
# Proofs.Confinement — a document root is not left

What a client asks for is probed below a document root, and the file system would follow
any path: over runs of slashes, single dots, and up again. So a path is declined if one of
its segments is `..`, and what is found for any other is the root with the remaining names
put behind it. Read as the file system reads it, the found path starts with all that the
root consists of and goes on with names alone, whatever the root looks like and however
the path was written.

* `filterMap_segments_relative`: the slashes that a path starts with are no components;
* `locate?_eq`: where a path lies;
* `components_join`: a name that is put behind a place is one component more;
* `locate_confined`: what is declined, and where everything else lies.
-/
import VirtualHosting.Proofs.Slice
import VirtualHosting.Resource.DocumentRoot

namespace VirtualHosting.DocumentRoot

set_option autoImplicit false

variable {path other root place name segment : String}

/-! ## Segments -/

theorem intercalate_segments (path : String) :
    String.intercalate "/" (segments path) = path := by
  apply String.toList_inj.1
  rw [String.toList_intercalate, segments, List.map_map]
  simpa using Text.intercalate_splitAt path.toList

theorem slashless_of_mem_segments (mem : segment ∈ segments path) : '/' ∉ segment.toList := by
  obtain ⟨stretch, there, rfl⟩ := List.mem_map.1 mem
  rw [String.toList_ofList]
  exact Text.not_mem_of_mem_splitAt there

theorem segments_of_slashless (plain : '/' ∉ path.toList) : segments path = [path] := by
  rw [segments, Text.splitAt_of_not_mem plain, List.map_singleton, String.ofList_toList]

theorem segments_append (front back : String) :
    segments (front ++ "/" ++ back) = segments front ++ segments back := by
  have letters : (front ++ "/" ++ back).toList = front.toList ++ '/' :: back.toList := by simp
  rw [segments, letters, Text.splitAt_append, List.map_append, segments, segments]

theorem head?_segments_append (front back : String) :
    (segments (front ++ "/" ++ back)).head? = (segments front).head? := by
  rw [segments_append]
  cases split : segments front with
  | nil => exact absurd (List.map_eq_nil_iff.1 split) (Text.splitAt_ne_nil '/' front.toList)
  | cons first rest => rfl

/-- The names in a path: its segments, but for empty ones and single dots. -/
def namesIn (path : String) : List String :=
  (segments path).filter isNamed

/-! ## Components -/

theorem up_mem_iff {parts : List String} :
    Component.up ∈ parts.filterMap Component.ofSegment? ↔ ".." ∈ parts := by
  simp only [List.mem_filterMap, Component.ofSegment?]
  constructor
  · rintro ⟨segment, mem, asked⟩
    split at asked
    · rename_i climbs
      exact climbs ▸ mem
    · split at asked <;> cases asked
  · intro mem
    exact ⟨"..", mem, if_pos rfl⟩

theorem top_not_mem (parts : List String) :
    Component.top ∉ parts.filterMap Component.ofSegment? := by
  simp only [List.mem_filterMap, Component.ofSegment?, not_exists, not_and]
  intro segment _
  split
  · simp
  · split <;> simp

/-- What is not `..` asks for a name or for nothing. -/
theorem filterMap_ofSegment? {parts : List String} (level : ".." ∉ parts) :
    parts.filterMap Component.ofSegment? = (parts.filter isNamed).map .named := by
  induction parts with
  | nil => rfl
  | cons segment rest same =>
    rw [List.mem_cons, not_or] at level
    rw [List.filterMap_cons, Component.ofSegment?, if_neg (Ne.symm level.1), same level.2,
      List.filter_cons]
    split <;> rename_i asked <;> split at asked <;> simp_all

/-- Slashes at the start of a path make empty segments only. -/
theorem filterMap_segments_relative (path : String) :
    (segments (relative path)).filterMap Component.ofSegment? =
      (segments path).filterMap Component.ofSegment? := by
  simp only [segments, relative, String.toList_ofList, List.filterMap_map]
  generalize path.toList = cs
  induction cs with
  | nil => rfl
  | cons c cs same =>
    rw [List.dropWhile_cons]
    split
    · rename_i slash
      have split : Text.splitAt '/' ('/' :: cs) = [[]] ++ Text.splitAt '/' cs :=
        Text.splitAt_append [] cs
      rw [same, eq_of_beq slash, split]
      rfl
    · rfl

/-- A path without its first slashes does not start at the top. -/
theorem here_of_mem_start {part : Component} (mem : part ∈ start (relative path)) :
    part = .here := by
  have slashless : Text.startsWith "/" (relative path) = false := by
    have first := List.head?_dropWhile_not (· == '/') path.toList
    rw [Text.startsWith, relative, String.toList_ofList]
    cases shape : path.toList.dropWhile (· == '/') with
    | nil => rfl
    | cons c rest =>
      have other : c ≠ '/' := by simpa [shape] using first
      simp [List.isPrefixOf, Ne.symm other]
  rw [start, slashless, if_neg Bool.false_ne_true] at mem
  split at mem
  · exact List.mem_singleton.1 mem
  · cases mem

/-- Where a path lies: nowhere if a segment of it would climb, and else the root with the
names of the path behind it. -/
theorem locate?_eq (root path : String) :
    locate? root path =
      if ".." ∈ segments path then none else some ((namesIn path).foldl join root) := by
  have up : Component.up ∉ start (relative path) := fun mem => nomatch here_of_mem_start mem
  have top : Component.top ∉ start (relative path) := fun mem => nomatch here_of_mem_start mem
  have nameless : (start (relative path)).filterMap Component.name? = [] := by
    rw [List.filterMap_eq_nil_iff]
    rintro part mem
    rw [here_of_mem_start mem]
    rfl
  have climbs : .up ∈ components (relative path) ∨ .top ∈ components (relative path) ↔
      ".." ∈ segments path := by
    rw [components, filterMap_segments_relative, List.mem_append, List.mem_append,
      or_iff_right up, or_iff_right top, up_mem_iff, or_iff_left (top_not_mem _)]
  rw [locate?, follow?_eq, if_congr climbs rfl rfl]
  split
  · rfl
  · rename_i level
    have names : (components (relative path)).filterMap Component.name? = namesIn path := by
      rw [components, List.filterMap_append, nameless, filterMap_segments_relative,
        filterMap_ofSegment? level, List.filterMap_map, List.nil_append]
      exact List.filterMap_some
    rw [names]

/-! ## Names behind a place -/

/-- A name is a segment of a path that does not climb. -/
structure IsName (name : String) : Prop where
  named : isNamed name = true
  level : name ≠ ".."
  slashless : '/' ∉ name.toList

theorem isName_of_mem_namesIn (level : ".." ∉ segments path) (mem : name ∈ namesIn path) :
    IsName name := by
  obtain ⟨there, named⟩ := List.mem_filter.1 mem
  exact ⟨named, fun climbs => level (climbs ▸ there), slashless_of_mem_segments there⟩

theorem startsWith_append (nonempty : place ≠ "") (more : String) :
    Text.startsWith "/" (place ++ more) = Text.startsWith "/" place := by
  rw [Text.startsWith, Text.startsWith, String.toList_append]
  cases shape : place.toList with
  | nil => exact absurd (String.toList_eq_nil_iff.1 shape) nonempty
  | cons c rest => simp [List.isPrefixOf]

theorem head?_segments_slash (front back : String) :
    (segments (front ++ "/" ++ back)).head? = (segments (front ++ "/")).head? := by
  have ended := head?_segments_append front ""
  rw [String.append_empty] at ended
  rw [head?_segments_append, ended]

/-- What stands behind a slash adds its own segments and leaves the rest as it is. -/
theorem components_slash_append (front back : String) :
    components (front ++ "/" ++ back) =
      components (front ++ "/") ++ (segments back).filterMap Component.ofSegment? := by
  have begins : start (front ++ "/" ++ back) = start (front ++ "/") := by
    have nonempty : front ++ "/" ≠ "" := by simp
    rw [start, start, head?_segments_slash, startsWith_append nonempty]
  have ended := segments_append front ""
  rw [String.append_empty] at ended
  have nothing : (segments "").filterMap Component.ofSegment? = [] := by decide
  rw [components, components, begins, segments_append, ended, List.filterMap_append,
    List.filterMap_append, nothing, List.append_nil, List.append_assoc]

theorem components_slash (nonempty : place ≠ "") :
    components (place ++ "/") = components place := by
  have ended := segments_append place ""
  have first := head?_segments_append place ""
  rw [String.append_empty] at ended first
  have nothing : (segments "").filterMap Component.ofSegment? = [] := by decide
  rw [components, components, start, start, startsWith_append nonempty, first, ended,
    List.filterMap_append, nothing, List.append_nil]

theorem IsName.filterMap_segments (ok : IsName name) :
    (segments name).filterMap Component.ofSegment? = [.named name] := by
  rw [segments_of_slashless ok.slashless]
  simp [Component.ofSegment?, ok.level, ok.named]

theorem IsName.start_eq (ok : IsName name) : start name = [] := by
  have slashless : Text.startsWith "/" name = false := by
    rw [Bool.eq_false_iff]
    intro slash
    obtain ⟨rest, rfl⟩ := Text.startsWith_eq_true_iff.1 slash
    exact ok.slashless (by simp)
  have inside : (segments name).head? ≠ some "." := by
    rw [segments_of_slashless ok.slashless]
    rintro ⟨⟩
    exact absurd ok.named (by decide)
  rw [start, slashless, if_neg Bool.false_ne_true, if_neg inside]

/-- A name that is put behind a place is one component more, however the place is written. -/
theorem components_join (ok : IsName name) (place : String) :
    components (join place name) = components place ++ [.named name] := by
  rw [← ok.filterMap_segments, join]
  by_cases empty : place = ""
  · subst empty
    have nothing : components "" = [] := by decide
    rw [if_pos (by simp), String.empty_append, nothing, components, ok.start_eq]
  · by_cases ended : Text.endsWith "/" place = true
    · obtain ⟨front, rfl⟩ := Text.endsWith_eq_true_iff.1 ended
      rw [if_pos (by simp [ended]), components_slash_append]
    · rw [if_neg (by simp [empty, ended]), components_slash_append, components_slash empty]

theorem components_foldl_join {names : List String} (ok : ∀ name ∈ names, IsName name)
    (root : String) :
    components (names.foldl join root) = components root ++ names.map .named := by
  induction names generalizing root with
  | nil => simp
  | cons name rest below =>
    rw [List.forall_mem_cons] at ok
    rw [List.foldl_cons, below ok.2, components_join ok.1, List.map_cons, List.append_assoc,
      List.singleton_append]

/-! ## What is declined and what is found -/

/-- **A document root is not left.** A path is declined if and only if one of the segments
between its slashes is `..`. Any other lies at the root with the path's names put behind it, in
their order: read as the file system reads it, the located path starts with all components of
the root and goes on with those names, none of which is `..`. Two paths with the same names are
answered alike, whatever the file system answers. -/
theorem locate_confined (root path : String) :
    (String.intercalate "/" (segments path) = path ∧
      ∀ segment ∈ segments path, '/' ∉ segment.toList) ∧
    (locate? root path = none ↔ ".." ∈ segments path) ∧
    (∀ located, locate? root path = some located →
      located = (namesIn path).foldl join root ∧
      components located = components root ++ (namesIn path).map .named ∧
      ".." ∉ namesIn path) ∧
    ∀ (other : String) (names : String → ResourceKind), namesIn other = namesIn path →
      (probe names root).look other = (probe names root).look path := by
  have climbs (path : String) : ".." ∈ namesIn path ↔ ".." ∈ segments path := by
    rw [namesIn, List.mem_filter, and_iff_left (by decide)]
  refine ⟨⟨intercalate_segments path, fun _ => slashless_of_mem_segments⟩, ?_, ?_, ?_⟩
  · rw [locate?_eq]
    split <;> simp [*]
  · intro located found
    rw [locate?_eq] at found
    split at found
    · cases found
    · rename_i level
      obtain rfl := Option.some.inj found
      exact ⟨rfl, components_foldl_join (fun _ => isName_of_mem_namesIn level) root,
        mt (climbs path).1 level⟩
  · intro other names same
    have located : locate? root other = locate? root path := by
      rw [locate?_eq, locate?_eq, same, if_congr (Iff.trans (climbs other).symm
        (same ▸ climbs path)) rfl rfl]
    simp only [probe, located]

end VirtualHosting.DocumentRoot
