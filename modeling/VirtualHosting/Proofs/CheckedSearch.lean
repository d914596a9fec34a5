/-
# Proofs.CheckedSearch — searches that index and slice

A table is searched by index, and a path is narrowed by slicing it: the search for a
covering name keeps an offset up to which it looks at the path, reads the byte behind a name
to see whether a segment ends there, and moves the offset to a slash that it found in what
it was looking at. Here the searches are written out with every one of these accesses, each
of which may fail, and with a loop that says so when it comes round to where it was. In a
table in ascending order none of that happens, and what they find is what the searches find
that know of names alone.

* `entryAt_isOk_iff`: an entry is read within the table, and nowhere else;
* `exactEntry_eq`, `exactEntryFolded_eq`: an entry by its name;
* `coversBytes_eq`: the byte behind a name;
* `Rounds.narrowFrom_eq`: a run of the search, round by round;
* `Ordered.findPrefix_eq`: the whole search.
-/
import VirtualHosting.Proofs.ByteCuts
import VirtualHosting.Proofs.CoveringIndex

namespace VirtualHosting

set_option autoImplicit false

/-! ## The byte behind a name -/

namespace Slash

open Text

variable {name path : String}

/-- Whether `path` is `name` or continues it with a slash, as told by the byte behind `name`. -/
def coversBytes (name path : String) : Checked Bool :=
  if startsWith name path then
    if path.utf8ByteSize = name.utf8ByteSize then .ok true
    else return (← byteAt path name.utf8ByteSize) == asciiByte '/'
  else .ok false

/-- The first byte of a character tells whether it is a slash. -/
theorem byteAt_append (name : String) (c : Char) (rest : String) :
    ∃ b, byteAt (name ++ (String.singleton c ++ rest)) name.utf8ByteSize = .ok b ∧
      (b == asciiByte '/') = (c == '/') := by
  obtain ⟨b, more, encoded⟩ : ∃ b more, String.utf8EncodeChar c = b :: more :=
    List.exists_cons_of_length_pos (by rw [String.length_utf8EncodeChar]; exact c.utf8Size_pos)
  refine ⟨b, ?_, ?_⟩
  · rw [byteAt, bytes_append, bytes_append, bytes_singleton, encoded, ← length_bytes,
      List.getElem?_append_right (Nat.le_refl _), Nat.sub_self]
    rfl
  · rw [Bool.eq_iff_iff, beq_iff_eq, beq_iff_eq]
    constructor
    · rintro rfl
      exact eq_of_mem_utf8EncodeChar (by decide) (encoded ▸ List.mem_cons_self)
    · rintro rfl
      rw [utf8EncodeChar_ascii (by decide)] at encoded
      exact (List.cons.inj encoded).1.symm

theorem coversBytes_eq (name path : String) : coversBytes name path = .ok (covers name path) := by
  unfold coversBytes
  split
  · rename_i leads
    obtain ⟨rest, rfl⟩ := startsWith_eq_true_iff.1 leads
    obtain ⟨cs, rfl⟩ := exists_ofList rest
    have after : afterLead? name.toList (name ++ String.ofList cs).toList = some cs :=
      (afterLead?_eq_some_iff _ _ _).2 (by simp)
    rw [covers, after]
    cases cs with
    | nil => simp
    | cons c cs =>
      obtain ⟨b, read, told⟩ := byteAt_append name c (String.ofList cs)
      have positive := c.utf8Size_pos
      rw [ofList_cons, if_neg (by simp; omega), read]
      exact congrArg Except.ok told
  · rename_i strays
    have reaches : ¬ covers name path = true := by
      intro covered
      rcases (covers_iff name path).1 covered with rfl | ⟨rest, rfl⟩
      · exact strays (startsWith_eq_true_iff.2 ⟨"", String.append_empty.symm⟩)
      · exact strays (startsWith_eq_true_iff.2 ⟨_, String.append_assoc ..⟩)
    rw [Bool.eq_false_iff.2 reaches]

/-- What reaches a path starts it. -/
theorem Reaches.exists_append (reach : Reaches name path) : ∃ rest, path = name ++ rest :=
  startsWith_eq_true_iff.1 (List.isPrefixOf_iff_prefix.2 reach.isPrefix)

end Slash

namespace Table

open Text Slash

variable {β : Type} {t : Table β} {path candidate : String}

/-! ## Entries -/

/-- The entry at an index. -/
def entryAt (t : Table β) (i : Nat) : Checked (String × β) :=
  match t.entries[i]? with
  | some e => .ok e
  | none => .error .index

/-- The entry that a search for the last one not above `key` leads to, if it passes `test`. -/
def entryIf (t : Table β) (test : String → Bool) : Option Nat → Checked (Option (String × β))
  | none => .ok none
  | some i => do
    let e ← t.entryAt i
    return if test e.1 then some e else none

/-- The entry named exactly `key`. -/
def exactEntry (t : Table β) (key : String) : Checked (Option (String × β)) :=
  t.entryIf (· == key) (t.floorIndex? key)

/-- The entry whose name is `key` but for letter case. -/
def exactEntryFolded (t : Table β) (key : String) : Checked (Option (String × β)) :=
  t.entryIf (sameFolded · key) (t.floorIndexFolded? key)

theorem entryAt_eq {i : Nat} {e : String × β} (stored : t.entries[i]? = some e) :
    t.entryAt i = .ok e := by
  rw [entryAt, stored]

/-- **An entry is read at the indices of the table**, and nowhere else. -/
theorem entryAt_isOk_iff (t : Table β) (i : Nat) : (t.entryAt i).isOk = true ↔ i < t.size := by
  rw [entryAt, size]
  cases stored : t.entries[i]? with
  | none =>
    have beyond := Array.getElem?_eq_none_iff.1 stored
    exact iff_of_false (nomatch ·) (by omega)
  | some e => exact iff_of_true rfl (Array.getElem?_eq_some_iff.1 stored).1

/-- An index that halving leads to is one of the table. -/
theorem exists_entryAt {n i : Nat} (inside : n ≤ t.entries.size) (last : lastOf n = some i) :
    ∃ e, t.entries[i]? = some e := by
  rw [lastOf_eq_some_iff] at last
  exact ⟨_, Array.getElem?_eq_getElem (by omega)⟩

theorem entryIf_lastOf (test : String → Bool) {n : Nat} (inside : n ≤ t.entries.size) :
    t.entryIf test (lastOf n) =
      .ok (((lastOf n).bind (t.entries[·]?)).filter fun e => test e.1) := by
  cases last : lastOf n with
  | none => rfl
  | some i =>
    obtain ⟨e, stored⟩ := exists_entryAt inside last
    rw [entryIf, entryAt_eq stored, Option.bind_some, stored, Option.filter_some]
    rfl

theorem exactEntry_eq (t : Table β) (key : String) : t.exactEntry key = .ok (t.entry? key) :=
  entryIf_lastOf _ (Search.partitionPoint_le ..)

theorem exactEntryFolded_eq (t : Table β) (key : String) :
    t.exactEntryFolded key = .ok (t.entryFolded? key) :=
  entryIf_lastOf _ (Search.partitionPoint_le ..)

/-! ## Covering names -/

/-- Goes on with the search at the entry at `pos`, the last one not above the path up to the
offset `stop`. The first time the path is cut at its slash number `nesting + 1`, then at its
last slash. A round that cuts nothing off would be gone through again and again. -/
def narrowFrom (t : Table β) (path : String) (nesting : Nat) (narrowed : Bool) (stop pos : Nat) :
    Checked (Option Nat) := do
  let candidate ← sliceTo stop path
  let (name, _) ← t.entryAt pos
  if ← coversBytes name candidate then
    return some pos
  else
    let next := if narrowed then lastSlash candidate else nthSlash (nesting + 1) candidate
    let shorter ← sliceTo next path
    match t.floorIndex? shorter with
    | none => return none
    | some pos =>
      if narrowed = true ∧ stop ≤ next then throw .endless
      else t.narrowFrom path nesting true next pos
termination_by (if narrowed then 0 else 1, stop)
decreasing_by
  cases narrowed with
  | false => exact .left _ _ Nat.zero_lt_one
  | true =>
    rename_i progress
    exact .right _ (Nat.lt_of_not_le fun stays => progress ⟨rfl, stays⟩)

/-- The index of the most specific name that covers the path. -/
def findPrefix (t : Table β) (path : String) (nesting : Nat) : Checked (Option Nat) :=
  match t.floorIndex? path with
  | none => .ok none
  | some pos => t.narrowFrom path nesting false path.utf8ByteSize pos

/-- The entry of that name. -/
def coveringEntry (t : Table β) (path : String) (nesting : Nat) :
    Checked (Option (String × β)) := do
  match ← t.findPrefix path nesting with
  | none => return none
  | some pos => some <$> t.entryAt pos

/-- The path that the next round asks for. -/
theorem next_eq (narrowed : Bool) (cut : Nat) (candidate : String) :
    (if narrowed then lastSlash candidate else nthSlash cut candidate) =
      (if narrowed then parent candidate else cutAtNth cut candidate).utf8ByteSize := by
  cases narrowed with
  | true => exact lastSlash_eq candidate
  | false => exact nthSlash_eq cut candidate

theorem reaches_next (narrowed : Bool) (cut : Nat) (candidate : String) :
    Reaches (if narrowed then parent candidate else cutAtNth cut candidate) candidate := by
  cases narrowed with
  | true => exact reaches_parent candidate
  | false => exact reaches_cutAtNth cut candidate

/-- **One round**: every access of it succeeds. -/
theorem narrowFrom_round {nesting pos : Nat} {narrowed : Bool} {e : String × β}
    {rest shorter : String} (stored : t.entries[pos]? = some e) (whole : path = candidate ++ rest)
    (next : (if narrowed then parent candidate else cutAtNth (nesting + 1) candidate) = shorter) :
    t.narrowFrom path nesting narrowed candidate.utf8ByteSize pos =
      if covers e.1 candidate then .ok (some pos)
      else match t.floorIndex? shorter with
        | none => .ok none
        | some pos =>
          if narrowed = true ∧ candidate.utf8ByteSize ≤ shorter.utf8ByteSize then .error .endless
          else t.narrowFrom path nesting true shorter.utf8ByteSize pos := by
  have stop : sliceTo candidate.utf8ByteSize path = .ok candidate := whole ▸ sliceTo_append ..
  obtain ⟨more, front⟩ := (next ▸ reaches_next narrowed (nesting + 1) candidate).exists_append
  have cut : sliceTo shorter.utf8ByteSize path = .ok shorter := by
    rw [whole, front, String.append_assoc]
    exact sliceTo_append ..
  rw [narrowFrom, stop, entryAt_eq stored]
  simp only [Checked.ok_bind, coversBytes_eq, next_eq, next, cut]
  rfl

/-- A run of the search is gone through without a fault, whichever path it is a part of, and
comes to its answer. -/
theorem Rounds.narrowFrom_eq {nesting : Nat} {narrowed : Bool} {answer : Option Nat} {rounds : Nat}
    (run : t.Rounds (nesting + 1) narrowed candidate answer rounds)
    (part : ∃ rest, path = candidate ++ rest) {pos : Nat}
    (below : t.floorIndex? candidate = some pos) :
    t.narrowFrom path nesting narrowed candidate.utf8ByteSize pos = .ok answer := by
  induction run generalizing pos with
  | exhausted missing => cases missing.symm.trans below
  | found below' stored covered =>
    obtain rfl := Option.some.inj (below'.symm.trans below)
    obtain ⟨rest, whole⟩ := part
    rw [narrowFrom_round stored whole rfl, if_pos covered]
  | @narrow narrowed candidate i e answer rounds below' stored missed run goesOn =>
    obtain rfl := Option.some.inj (below'.symm.trans below)
    obtain ⟨rest, whole⟩ := part
    obtain ⟨more, front⟩ := (reaches_next narrowed (nesting + 1) candidate).exists_append
    rw [narrowFrom_round stored whole rfl, if_neg missed]
    cases further : t.floorIndex? (if narrowed then parent candidate
        else cutAtNth (nesting + 1) candidate) with
    | none => exact congrArg Except.ok (run.unique (.exhausted further)).1
    | some pos =>
      dsimp only
      rw [if_neg, goesOn ⟨more ++ rest, by rw [whole, ← String.append_assoc, ← front]⟩ further]
      rintro ⟨rfl, stays⟩
      -- a run that came round to where it was would have no last round
      have same : parent candidate = candidate := by
        simp only [if_true] at front stays
        have size := congrArg String.utf8ByteSize front
        rw [String.utf8ByteSize_append] at size
        have nothing : more = "" := String.utf8ByteSize_eq_zero_iff.1 (by omega)
        rw [nothing, String.append_empty] at front
        exact front.symm
      have again : t.Rounds (nesting + 1) true candidate answer rounds := by
        simpa only [if_true, same] using run
      have longer := (again.unique (.narrow below stored missed run)).2
      omega

/-- **The search for a covering name succeeds** in every access, ends, and finds the index. -/
theorem Ordered.findPrefix_eq (ordered : t.Ordered) (path : String) (nesting : Nat) :
    t.findPrefix path nesting = .ok (t.coveringIndex? path nesting) := by
  obtain ⟨rounds, _, run⟩ := ordered.exists_rounds path (nesting + 1)
  rw [findPrefix]
  cases below : t.floorIndex? path with
  | none => exact congrArg Except.ok (run.unique (.exhausted below)).1
  | some pos => exact run.narrowFrom_eq ⟨"", String.append_empty.symm⟩ below

theorem Ordered.coveringEntry_eq (ordered : t.Ordered) (path : String) (nesting : Nat) :
    t.coveringEntry path nesting = .ok (t.covering? path nesting) := by
  obtain ⟨rounds, _, run⟩ := ordered.exists_rounds path (nesting + 1)
  rw [coveringEntry, ordered.findPrefix_eq, covering?]
  rw [← coveringIndex?] at run
  cases found : t.coveringIndex? path nesting with
  | none => rfl
  | some pos =>
    rw [found] at run
    obtain ⟨e, stored, _⟩ := run.reaches
    rw [Option.bind_some, stored, Checked.ok_bind]
    dsimp only
    rw [entryAt_eq stored]
    rfl

end Table

end VirtualHosting
