/-
# Slash — the segments of a path

Mount paths and wildcard handlers claim whole segments of a request path: the
name `/shop` covers `/shop` and `/shop/cart` but not `/shopping`. A path is
shortened at one of its slashes to ask for a less specific name.

* `covers_iff`: a name covers itself and whatever continues it with a slash;
* `upToNth_eq_self`: cutting beyond the last slash leaves the path whole;
* `upToLast_length_lt`: dropping the last segment shortens a nonempty path.
-/

import VirtualHosting.Text.Slice

namespace VirtualHosting.Slash

set_option autoImplicit false

/-- The number of slashes in a name. -/
def count (name : String) : Nat :=
  name.toList.count '/'

/-- Whether `path` is `name` or continues it with a slash. -/
def covers (name path : String) : Bool :=
  match Text.afterLead? name.toList path.toList with
  | some [] => true
  | some (c :: _) => c == '/'
  | none => false

/-- What precedes the `n`th slash, all of it if there are fewer. The first slash
is number one, and so is number zero. -/
def upToNth : Nat → List Char → List Char
  | _, [] => []
  | n, c :: cs =>
    if c = '/' then
      match n with
      | 0 | 1 => []
      | n + 2 => c :: upToNth (n + 1) cs
    else c :: upToNth n cs

/-- What precedes the last slash, nothing if there is none. -/
def upToLast (cs : List Char) : List Char :=
  (cs.reverse.dropWhile (· != '/')).tail.reverse

/-- The path cut at its `n`th slash. -/
def cutAtNth (n : Nat) (path : String) : String :=
  String.ofList (upToNth n path.toList)

/-- The path without its last segment. -/
def parent (path : String) : String :=
  String.ofList (upToLast path.toList)

/-- Where the `n`th slash stands, in bytes: at the end if there are fewer. -/
def nthOffset (n : Nat) (path : String) : Nat :=
  (cutAtNth n path).utf8ByteSize

/-- Where the last slash stands, in bytes: at the start if there is none. -/
def lastOffset (path : String) : Nat :=
  (parent path).utf8ByteSize

theorem covers_iff (name path : String) :
    covers name path = true ↔
      path = name ∨ ∃ rest : String, path = name ++ "/" ++ rest := by
  unfold covers
  constructor
  · intro h
    split at h
    · rename_i split
      rw [Text.afterLead?_eq_some_iff] at split
      exact .inl (String.toList_inj.1 (by simpa using split))
    · rename_i c rest split
      rw [Text.afterLead?_eq_some_iff] at split
      refine .inr ⟨String.ofList rest, String.toList_inj.1 ?_⟩
      simpa [eq_of_beq h] using split
    · exact absurd h (by simp)
  · rintro (rfl | ⟨rest, rfl⟩)
    · have : Text.afterLead? path.toList path.toList = some [] :=
        (Text.afterLead?_eq_some_iff _ _ _).2 (by simp)
      rw [this]
    · have : Text.afterLead? name.toList (name ++ "/" ++ rest).toList = some ('/' :: rest.toList) :=
        (Text.afterLead?_eq_some_iff _ _ _).2 (by simp)
      rw [this]
      rfl

theorem covers_self (name : String) : covers name name = true :=
  (covers_iff name name).2 (.inl rfl)

theorem upToNth_eq_self (n : Nat) (cs : List Char) (few : cs.count '/' < n) :
    upToNth n cs = cs := by
  induction cs generalizing n with
  | nil => rfl
  | cons c cs ih =>
    by_cases slash : c = '/'
    · subst slash
      rw [List.count_cons_self] at few
      obtain ⟨m, rfl⟩ : ∃ m, n = m + 2 := ⟨n - 2, by omega⟩
      simp [upToNth, ih (m + 1) (by omega)]
    · rw [List.count_cons_of_ne slash] at few
      simp [upToNth, slash, ih n few]

theorem upToLast_length_lt (cs : List Char) (some_left : cs ≠ []) :
    (upToLast cs).length < cs.length := by
  have shorter := (List.dropWhile_suffix (l := cs.reverse) (· != '/')).length_le
  have positive := List.length_pos_iff.2 some_left
  simp only [upToLast, List.length_reverse, List.length_tail] at shorter ⊢
  omega

end VirtualHosting.Slash
