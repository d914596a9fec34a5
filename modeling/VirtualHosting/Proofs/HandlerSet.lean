/-
# Proofs.HandlerSet — a handler set stays in order

Handlers come and go one pattern at a time. Whatever the patterns, the three
tables of a set stay ordered and its nesting stays that of its wildcards, though
adding a wildcard raises the nesting and removing one computes it anew.

* `Step.wellFormed`: one pattern more or less keeps a set well formed;
* `WellFormed.find?_place`: a handler placed in a free slot is found there;
* `Reachable.wellFormed`: so every set built from the empty one is well formed.
-/
import VirtualHosting.Proofs.Table
import VirtualHosting.Handler

namespace VirtualHosting.HandlerSet

set_option autoImplicit false

variable {W : Type} {set next : HandlerSet W}

/-- What every search of a set relies on. -/
structure WellFormed (set : HandlerSet W) : Prop where
  exact_ordered : set.exact.Ordered
  wildcard_ordered : set.wildcard.Ordered
  extension_ordered : set.extension.Ordered
  nesting : set.wildcard.HasNesting set.nesting

theorem wellFormed_empty : (empty : HandlerSet W).WellFormed :=
  ⟨Table.ordered_empty, Table.ordered_empty, Table.ordered_empty, Table.hasNesting_empty⟩

/-- A handler more, for a pattern that has none, or a handler less. -/
inductive Step [DecidableEq W] : HandlerSet W → HandlerSet W → Prop where
  | add {set next : HandlerSet W} {p : Pattern} {target : W} {flags : HandlerFlags}
      (added : set.add p target flags = .changed next) : Step set next
  | remove {set next : HandlerSet W} {p : Pattern}
      (removed : set.remove? p = some next) : Step set next

/-- What adding and removing patterns makes of the empty set. -/
inductive Reachable [DecidableEq W] : HandlerSet W → Prop where
  | empty : Reachable empty
  | step {set next : HandlerSet W} (reached : Reachable set) (step : Step set next) :
      Reachable next

/-- A handler goes where there is none. -/
theorem add_of_free [DecidableEq W] {p : Pattern} (free : set.find? p = none) (target : W)
    (flags : HandlerFlags) : set.add p target flags = .changed (set.place p ⟨target, flags⟩) := by
  rw [add, free]

/-- Where there is a handler, it stays. -/
theorem add_of_held [DecidableEq W] {p : Pattern} {existing : Handler W}
    (held : set.find? p = some existing) (target : W) (flags : HandlerFlags) :
    set.add p target flags = if existing.target = target then .unchanged else .conflict := by
  rw [add, held]

/-- A free slot is filled in one step. -/
theorem Step.place [DecidableEq W] {p : Pattern} (free : set.find? p = none)
    (handler : Handler W) : set.Step (set.place p handler) :=
  .add (add_of_free free handler.target handler.flags)

theorem WellFormed.place (ordered : set.WellFormed) (p : Pattern) (handler : Handler W) :
    (set.place p handler).WellFormed := by
  cases p with
  | fallback => exact ⟨ordered.1, ordered.2, ordered.3, ordered.4⟩
  | wildcard lead =>
    simp only [HandlerSet.place]
    split
    · rename_i wildcard inserted
      exact ⟨ordered.1, ordered.2.insert? inserted, ordered.3,
        ordered.4.insert? ordered.2 inserted⟩
    · exact ordered
  | extension suffix =>
    simp only [HandlerSet.place]
    split
    · rename_i extension inserted
      exact ⟨ordered.1, ordered.2, ordered.3.insert? inserted, ordered.4⟩
    · exact ordered
  | root | exact path =>
    simp only [HandlerSet.place]
    split
    · rename_i exact inserted
      exact ⟨ordered.1.insert? inserted, ordered.2, ordered.3, ordered.4⟩
    · exact ordered

/-- A handler added is a handler placed. -/
theorem add_eq_changed_iff [DecidableEq W] {p : Pattern} {target : W} {flags : HandlerFlags} :
    set.add p target flags = .changed next ↔
      set.find? p = none ∧ next = set.place p ⟨target, flags⟩ := by
  unfold add
  cases set.find? p with
  | none => simp [eq_comm]
  | some existing => by_cases same : existing.target = target <;> simp [same]

/-- A handler placed in a free slot is found there. -/
theorem WellFormed.find?_place (ordered : set.WellFormed) {p : Pattern}
    (free : set.find? p = none) (handler : Handler W) :
    (set.place p handler).find? p = some handler := by
  cases p with
  | fallback => rfl
  | wildcard lead =>
    obtain ⟨wildcard, inserted, found⟩ := ordered.2.exists_insert? free handler
    simp only [HandlerSet.place, inserted]
    exact found
  | extension suffix =>
    obtain ⟨extension, inserted, found⟩ := ordered.3.exists_insert? free handler
    simp only [HandlerSet.place, inserted]
    exact found
  | root | exact path =>
    obtain ⟨exact, inserted, found⟩ := ordered.1.exists_insert? free handler
    simp only [HandlerSet.place, inserted]
    exact found

theorem WellFormed.remove? (ordered : set.WellFormed) {p : Pattern}
    (removed : set.remove? p = some next) : next.WellFormed := by
  cases p with
  | fallback =>
    obtain ⟨_, _, rfl⟩ := Option.map_eq_some_iff.1 removed
    exact ⟨ordered.1, ordered.2, ordered.3, ordered.4⟩
  | wildcard lead =>
    obtain ⟨wildcard, erased, rfl⟩ := Option.map_eq_some_iff.1 removed
    exact ⟨ordered.1, ordered.2.erase? erased, ordered.3, wildcard.hasNesting_nesting⟩
  | extension suffix =>
    obtain ⟨extension, erased, rfl⟩ := Option.map_eq_some_iff.1 removed
    exact ⟨ordered.1, ordered.2, ordered.3.erase? erased, ordered.4⟩
  | root | exact path =>
    obtain ⟨exact, erased, rfl⟩ := Option.map_eq_some_iff.1 removed
    exact ⟨ordered.1.erase? erased, ordered.2, ordered.3, ordered.4⟩

variable [DecidableEq W]

theorem Step.wellFormed (step : Step set next) (ordered : set.WellFormed) : next.WellFormed := by
  cases step with
  | add added =>
    obtain ⟨_, rfl⟩ := add_eq_changed_iff.1 added
    exact ordered.place _ _
  | remove removed => exact ordered.remove? removed

/-- **Every set that patterns were added to and removed from is well formed.** -/
theorem Reachable.wellFormed (reached : set.Reachable) : set.WellFormed := by
  induction reached with
  | empty => exact wellFormed_empty
  | step _ step ih => exact step.wellFormed ih

end VirtualHosting.HandlerSet
