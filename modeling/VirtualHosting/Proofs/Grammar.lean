/-
# Proofs.Grammar — which texts are patterns, and where each is kept

A pattern is read by checks that overlap and come in a fixed order: `*.` may be the
start of an extension or a mistake in a path, a slash the start of a path or a mistake
in an extension. Here the texts that pass are described by their letters alone.

What was read is stored under a key that leaves out what its shape says already, so
different patterns can have one key: `/` and `/*` have the empty one. A key tells
patterns apart only within its table, and together with the table it does.

* `exists_parse_iff`: a text is read exactly if it is grammatical;
* `sameSlot_iff_slot_eq`: one table and one key make one slot;
* `HandlerSet.find?_eq_shelved`: a set looks where the pattern is kept;
* `parse_exact`: so patterns that are written differently never meet in a set.
-/
import VirtualHosting.Proofs.Slice
import VirtualHosting.Proofs.Slots

namespace VirtualHosting

set_option autoImplicit false

/-! ## Parts of a text -/

theorem Text.occursIn_eq_true_iff {part s : String} :
    occursIn part s = true ↔ ∃ front back, s = front ++ part ++ back := by
  have letters (cs : List Char) : occursIn.go part cs = true ↔ part.toList <:+: cs := by
    induction cs with
    | nil => rw [occursIn.go, List.isEmpty_iff, List.infix_nil]
    | cons c cs ih =>
      rw [occursIn.go, Bool.or_eq_true, ih, List.isPrefixOf_iff_prefix, List.infix_cons_iff]
  rw [occursIn, letters]
  constructor
  · rintro ⟨front, back, split⟩
    refine ⟨String.ofList front, String.ofList back, String.toList_inj.1 ?_⟩
    simp [← split]
  · rintro ⟨front, back, rfl⟩
    exact ⟨front.toList, back.toList, by simp⟩

namespace Pattern

variable {written written' : String} {p p' : Pattern}

/-! ## The grammar -/

/-- How a pattern may be written: on one line, as nothing at all, as an extension, or as
a path with no extension in it. -/
structure Grammatical (written : String) : Prop where
  no_newline : '\n' ∉ written.toList
  no_return : '\r' ∉ written.toList
  shaped : written = "" ∨
    (∃ suffix, written = "*." ++ suffix ∧ suffix ≠ "" ∧ '/' ∉ suffix.toList) ∨
    (∃ rest, written = "/" ++ rest) ∧ ¬ ∃ front back, written = front ++ "*." ++ back

theorem exists_parsePath_iff :
    (∃ p, parsePath written = .ok p) ↔ ¬ ∃ front back, written = front ++ "*." ++ back := by
  rw [← Text.occursIn_eq_true_iff]
  unfold parsePath
  cases Text.occursIn "*." written with
  | true => simp
  | false =>
    by_cases bare : written = "/"
    · simp [bare]
    · cases Text.stripEnd? "/*" written <;> simp [bare]

/-- What is left of the reader once a text is known to be one line. -/
theorem parse_of_line (no_newline : '\n' ∉ written.toList) (no_return : '\r' ∉ written.toList) :
    parse written =
      if written = "" then .ok .root
      else match Text.strip? "*." written with
        | some suffix =>
          if '/' ∈ suffix.toList then .error .slashInExtension
          else if suffix = "" then .error .noExtension
          else .ok (.extension suffix)
        | none => if Text.startsWith "/" written then parsePath written else .error .noLead := by
  have one_line : written.toList.any (fun c => c == '\n' || c == '\r') = false := by
    rw [List.any_eq_false]
    intro c mem
    simp only [Bool.or_eq_true, beq_iff_eq, not_or]
    constructor
    · rintro rfl
      exact no_newline mem
    · rintro rfl
      exact no_return mem
  unfold parse
  rw [one_line]
  rfl

/-- A text that is read is one line. -/
theorem line_of_parse (read : parse written = .ok p) :
    '\n' ∉ written.toList ∧ '\r' ∉ written.toList := by
  unfold parse at read
  split at read
  · cases read
  · rename_i one_line
    rw [Bool.not_eq_true, List.any_eq_false] at one_line
    constructor
    · intro mem
      simpa using one_line _ mem
    · intro mem
      simpa using one_line _ mem

/-- What starts like an extension does not start like a path. -/
theorem not_led_of_starred (suffix : String) : ¬ ∃ rest, "*." ++ suffix = "/" ++ rest := by
  rintro ⟨rest, same⟩
  have letters := congrArg String.toList same
  simp at letters

/-- **A text is read exactly if it is grammatical.** -/
theorem exists_parse_iff : (∃ p, parse written = .ok p) ↔ Grammatical written := by
  by_cases line : '\n' ∉ written.toList ∧ '\r' ∉ written.toList
  · have shaped : Grammatical written ↔ _ :=
      ⟨Grammatical.shaped, fun shaped => ⟨line.1, line.2, shaped⟩⟩
    rw [shaped, parse_of_line line.1 line.2]
    by_cases root : written = ""
    · simp [root]
    · rw [if_neg root, or_iff_right root]
      cases starred : Text.strip? "*." written with
      | some suffix =>
        rw [Text.strip?_eq_some_iff] at starred
        subst starred
        have extension : (∃ other, "*." ++ suffix = "*." ++ other ∧ other ≠ "" ∧
            '/' ∉ other.toList) ↔ suffix ≠ "" ∧ '/' ∉ suffix.toList := by
          simp only [String.append_right_inj, exists_eq_left']
        rw [or_iff_left fun led => not_led_of_starred suffix led.1, extension]
        by_cases slashed : '/' ∈ suffix.toList
        · simp [slashed]
        · by_cases bare : suffix = "" <;> simp [slashed, bare]
      | none =>
        have unstarred : ¬ ∃ suffix, written = "*." ++ suffix ∧ suffix ≠ "" ∧
            '/' ∉ suffix.toList := by
          rintro ⟨suffix, same, _⟩
          cases starred.symm.trans ((Text.strip?_eq_some_iff _ _ _).2 same)
        rw [or_iff_right unstarred]
        by_cases led : ∃ rest, written = "/" ++ rest
        · dsimp only
          rw [if_pos (Text.startsWith_eq_true_iff.2 led), and_iff_right led,
            exists_parsePath_iff]
        · dsimp only
          rw [if_neg (mt Text.startsWith_eq_true_iff.1 led)]
          simp [led]
  · constructor
    · rintro ⟨p, read⟩
      exact absurd (line_of_parse read) line
    · intro grammatical
      exact absurd ⟨grammatical.no_newline, grammatical.no_return⟩ line

end Pattern

/-! ## Where a pattern is kept -/

/-- The tables of a handler set. -/
inductive HandlerSet.Shelf where
  | exact
  | wildcard
  | extension
  deriving DecidableEq, Repr

namespace HandlerSet

variable {W : Type}

def shelf (set : HandlerSet W) : Shelf → Table (Handler W)
  | .exact => set.exact
  | .wildcard => set.wildcard
  | .extension => set.extension

end HandlerSet

namespace Pattern

variable {written written' : String} {p p' : Pattern}

/-- The table that has the pattern's handler, unless it is the fallback. -/
def shelf? : Pattern → Option HandlerSet.Shelf
  | fallback => none
  | root | exact _ => some .exact
  | wildcard _ => some .wildcard
  | extension _ => some .extension

/-- Two patterns are kept under one key of one table, or both are the fallback. -/
def SameSlot (p p' : Pattern) : Prop :=
  (p = .fallback ∧ p' = .fallback) ∨
    ∃ shelf, p.shelf? = some shelf ∧ p'.shelf? = some shelf ∧ p.key = p'.key

theorem sameSlot_iff_slot_eq : p.SameSlot p' ↔ p.slot = p'.slot := by
  cases p <;> cases p' <;> simp [SameSlot, shelf?, key, slot]

end Pattern

/-- A set looks for the handler of a pattern where the pattern is kept. -/
theorem HandlerSet.find?_eq_shelved {W : Type} (set : HandlerSet W) (p : Pattern) :
    set.find? p =
      match p.shelf? with
      | none => set.fallback
      | some shelf => (set.shelf shelf).find? p.key := by
  cases p <;> rfl

namespace Pattern

/-- **Reading accepts the grammar, loses nothing and keeps patterns apart.** A text is a
pattern exactly if it is grammatical, and a pattern is written back as it was. A set
looks for its handler in the one slot where it is kept, and two patterns are kept in one
slot exactly if they are one text. So a handler that is put into a free slot is found
for its own text and changes nothing for any other. -/
theorem parse_exact (written : String) :
    ((∃ p, parse written = .ok p) ↔ Grammatical written) ∧
      ∀ p, parse written = .ok p → p.text = written ∧
        (∀ (W : Type) (set : HandlerSet W), set.find? p =
          match p.shelf? with
          | none => set.fallback
          | some shelf => (set.shelf shelf).find? p.key) ∧
        ∀ written' p', parse written' = .ok p' →
          (p.SameSlot p' ↔ written = written') ∧
          ∀ (W : Type) (set : HandlerSet W) (handler : Handler W), set.WellFormed →
            set.find? p = none →
            (set.place p handler).find? p' =
              if written = written' then some handler else set.find? p' := by
  refine ⟨exists_parse_iff, fun p read => ⟨text_of_parse read,
    fun _ set => set.find?_eq_shelved p, fun written' p' read' => ?_⟩⟩
  have slots : p.slot = p'.slot ↔ written = written' := by
    constructor
    · exact eq_of_slot_eq read read'
    · rintro rfl
      rw [Except.ok.inj (read.symm.trans read')]
  refine ⟨sameSlot_iff_slot_eq.trans slots, fun W set handler ordered free => ?_⟩
  rw [ordered.find?_place_eq free]
  simp only [eq_comm (a := p'.slot), slots]

/-- The fallback and the wildcard for everything have one key, and a set keeps them
apart: with a handler for the one it has none for the other. -/
theorem parse_exact_emptyKeys :
    Grammatical "/" ∧ text .fallback = "/" ∧ key .fallback = key (.wildcard "") ∧
      ¬ SameSlot .fallback (.wildcard "") ∧
      ((HandlerSet.empty : HandlerSet Nat).place .fallback ⟨7, {}⟩).find? (.wildcard "") =
        none := by
  have read : parse "/" = .ok .fallback := by decide +kernel
  have read' : parse "/*" = .ok (.wildcard "") := by decide +kernel
  have other : "/" ≠ "/*" := by decide
  obtain ⟨accepts, kept⟩ := parse_exact "/"
  obtain ⟨back, -, apart⟩ := kept .fallback read
  obtain ⟨slots, reading⟩ := apart "/*" (.wildcard "") read'
  have found := reading Nat .empty ⟨7, {}⟩ HandlerSet.wellFormed_empty (HandlerSet.find?_empty _)
  rw [if_neg other, HandlerSet.find?_empty] at found
  exact ⟨accepts.1 ⟨_, read⟩, back, rfl, fun same => other (slots.1 same), found⟩

end Pattern

end VirtualHosting
