/-
# Text.Slice — the parts of a text around a character

Routing cuts names at characters: a path at its slashes, a file name at its
last dot, a host name at its first. Each cut is stated on the list of
characters, so no offset has to be shown to fall between two of them; where an
offset itself is asked for it is the length in bytes of the part before it.

* `splitAt_ne_nil`: a text has at least one stretch;
* `before_append_fromFirst`: a text is the part before a character and the rest;
* `strip?_eq_some_iff`: stripping a leading text succeeds exactly on its extensions;
* `cutAfter?_eq_some_iff`: a cut between bytes succeeds exactly between characters.
-/

namespace VirtualHosting.Text

set_option autoImplicit false

/-- What follows `lead` in `cs`, if `cs` starts with it. -/
def afterLead? {α : Type} [DecidableEq α] : List α → List α → Option (List α)
  | [], cs => some cs
  | _ :: _, [] => none
  | a :: lead, c :: cs => if a = c then afterLead? lead cs else none

/-- The stretches between occurrences of a character, empty ones included. -/
def splitAt (sep : Char) : List Char → List (List Char)
  | [] => [[]]
  | c :: cs =>
    match splitAt sep cs with
    | [] => [[c]]
    | first :: rest => if c = sep then [] :: first :: rest else (c :: first) :: rest

/-- The text before the first `c`: all of it if there is none. -/
def before (c : Char) (s : String) : String :=
  String.ofList (s.toList.takeWhile (· != c))

/-- The text from the first `c` on, if there is one. -/
def fromFirst? (c : Char) (s : String) : Option String :=
  match s.toList.dropWhile (· != c) with
  | [] => none
  | rest => some (String.ofList rest)

/-- The text after the last `c`, if there is one. -/
def afterLast? (c : Char) (s : String) : Option String :=
  if c ∈ s.toList then
    some (String.ofList (s.toList.reverse.takeWhile (· != c)).reverse)
  else none

/-- What follows `lead` in `s`, if `s` starts with it. -/
def strip? (lead s : String) : Option String :=
  (afterLead? lead.toList s.toList).map String.ofList

/-- What precedes `tail` in `s`, if `s` ends with it. -/
def stripEnd? (tail s : String) : Option String :=
  (afterLead? tail.toList.reverse s.toList.reverse).map fun rest => String.ofList rest.reverse

/-- Whether `s` starts with `lead`. -/
def startsWith (lead s : String) : Bool :=
  lead.toList.isPrefixOf s.toList

/-- Whether `s` ends with `tail`. -/
def endsWith (tail s : String) : Bool :=
  tail.toList.isSuffixOf s.toList

/-- Whether `part` occurs somewhere in `s`. -/
def occursIn (part s : String) : Bool :=
  go s.toList
where
  go : List Char → Bool
    | [] => part.toList.isEmpty
    | c :: rest => part.toList.isPrefixOf (c :: rest) || go rest

/-- `s` without as many leading characters as `lead` has. -/
def dropLength (lead s : String) : String :=
  String.ofList (s.toList.drop lead.toList.length)

/-- The length of a text in bytes. -/
def byteLength : List Char → Nat
  | [] => 0
  | c :: cs => c.utf8Size + byteLength cs

/-- The first `n` bytes of a text and the rest, if no character lies in both. -/
def cutAfter? : Nat → List Char → Option (List Char × List Char)
  | 0, cs => some ([], cs)
  | _ + 1, [] => none
  | n + 1, c :: cs =>
    if c.utf8Size ≤ n + 1 then
      (cutAfter? (n + 1 - c.utf8Size) cs).map fun (first, rest) => (c :: first, rest)
    else none

theorem cutAfter?_eq_some_iff (first rest : List Char) :
    ∀ (cs : List Char) (n : Nat),
      cutAfter? n cs = some (first, rest) ↔ cs = first ++ rest ∧ n = byteLength first := by
  induction first with
  | nil =>
    intro cs n
    cases n with
    | zero => simp [cutAfter?, byteLength]
    | succ n => cases cs <;> simp [cutAfter?, byteLength]
  | cons c first ih =>
    have positive := c.utf8Size_pos
    intro cs n
    cases n with
    | zero => simp [cutAfter?, byteLength]; omega
    | succ n =>
      cases cs with
      | nil => simp [cutAfter?]
      | cons d cs =>
        have positive' := d.utf8Size_pos
        by_cases fits : d.utf8Size ≤ n + 1
        · simp only [cutAfter?, fits, if_true, Option.map_eq_some_iff, Prod.exists,
            Prod.mk.injEq, List.cons.injEq, List.cons_append]
          constructor
          · rintro ⟨a, b, cut, ⟨rfl, rfl⟩, rfl⟩
            obtain ⟨rfl, size⟩ := (ih cs _).1 cut
            refine ⟨⟨rfl, rfl⟩, ?_⟩
            simp only [byteLength] at size ⊢
            omega
          · rintro ⟨⟨rfl, rfl⟩, size⟩
            refine ⟨first, rest, (ih _ _).2 ⟨rfl, ?_⟩, ⟨rfl, rfl⟩, rfl⟩
            simp only [byteLength] at size ⊢
            omega
        · simp only [cutAfter?, fits, if_false, List.cons_append, List.cons.injEq]
          constructor
          · intro impossible
            cases impossible
          · rintro ⟨⟨rfl, _⟩, size⟩
            simp only [byteLength] at size
            omega

theorem afterLead?_eq_some_iff {α : Type} [DecidableEq α] (lead rest : List α) :
    ∀ cs, afterLead? lead cs = some rest ↔ cs = lead ++ rest := by
  induction lead with
  | nil => intro cs; simp [afterLead?]
  | cons a lead ih =>
    intro cs
    cases cs with
    | nil => simp [afterLead?]
    | cons c cs =>
      by_cases same : a = c
      · simp [afterLead?, same, ih]
      · simp [afterLead?, same, Ne.symm same]

theorem splitAt_ne_nil (sep : Char) (cs : List Char) : splitAt sep cs ≠ [] := by
  cases cs with
  | nil => simp [splitAt]
  | cons c cs =>
    unfold splitAt
    split
    · simp
    · split <;> simp

theorem strip?_eq_some_iff (lead s rest : String) :
    strip? lead s = some rest ↔ s = lead ++ rest := by
  simp only [strip?, Option.map_eq_some_iff, afterLead?_eq_some_iff]
  constructor
  · rintro ⟨cs, split, rfl⟩
    apply String.toList_inj.1
    simp [split]
  · rintro rfl
    exact ⟨rest.toList, by simp, by simp⟩

theorem before_append_fromFirst (c : Char) (s : String) :
    before c s ++ (fromFirst? c s).getD "" = s := by
  apply String.toList_inj.1
  have whole := List.takeWhile_append_dropWhile (p := (· != c)) (l := s.toList)
  unfold before fromFirst?
  split
  · rename_i none_left
    rw [none_left] at whole
    simpa using whole
  · simp

end VirtualHosting.Text
