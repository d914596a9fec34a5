/-
# Proofs.Slots — a handler set as a finite map

Patterns of five shapes share three tables and one place for the fallback. Seen
from outside it is one finite map: every pattern has a slot, and a slot holds one
handler or none. Only two patterns share a slot, the application root and the path
`/`, and the latter is not written by anybody, for `/` is the fallback.

* `WellFormed.find?_place_eq`, `WellFormed.find?_remove?`: a handler more or less is
  one binding more or less;
* `WellFormed.ext`: a set in order is what it answers, its nesting included;
* `WellFormed.put_comm`: handlers for different slots may come in any order;
* `Pattern.eq_of_slot_eq`: what is written differently has another slot.
-/
import VirtualHosting.Proofs.HandlerSet

namespace VirtualHosting

set_option autoImplicit false

/-! ## The slot of a pattern -/

namespace Pattern

variable {written written' : String} {p p' : Pattern}

/-- Where a set keeps the handler of a pattern. The application root is the path `/`
there. -/
def slot : Pattern → Pattern
  | root => exact "/"
  | p => p

/-- Nobody can write the exact path `/`. -/
theorem ne_exact_slash_of_parse (read : parse written = .ok p) : p ≠ .exact "/" := by
  rintro rfl
  have same : "/" = written := text_of_parse read
  have fallback : parse "/" = .ok .fallback := by decide +kernel
  rw [← same, fallback] at read
  cases read

theorem slot_injective (away : p ≠ .exact "/") (away' : p' ≠ .exact "/")
    (same : p.slot = p'.slot) : p = p' := by
  cases p <;> cases p' <;> simp_all [slot]

/-- Patterns that share a slot are written alike. -/
theorem eq_of_slot_eq (read : parse written = .ok p) (read' : parse written' = .ok p')
    (same : p.slot = p'.slot) : written = written' := by
  have one : p = p' :=
    slot_injective (ne_exact_slash_of_parse read) (ne_exact_slash_of_parse read') same
  rw [← text_of_parse read, ← text_of_parse read', one]

end Pattern

/-! ## One binding more or less -/

namespace HandlerSet

variable {W : Type} {set next : HandlerSet W} {p q : Pattern} {handler : Handler W}

@[simp]
theorem find?_slot (set : HandlerSet W) (p : Pattern) : set.find? p.slot = set.find? p := by
  cases p <;> rfl

namespace WellFormed

/-- **A handler placed in a free slot is one binding more.** -/
theorem find?_place_eq (ordered : set.WellFormed) (free : set.find? p = none)
    (handler : Handler W) (q : Pattern) :
    (set.place p handler).find? q = if q.slot = p.slot then some handler else set.find? q := by
  cases p with
  | fallback =>
    split <;> cases q <;> simp_all [HandlerSet.place, HandlerSet.find?, Pattern.slot]
  | wildcard lead =>
    obtain ⟨wildcard, inserted, _⟩ := ordered.2.exists_insert? free handler
    have bound := ordered.2.find?_insert? inserted
    split <;> cases q <;> simp_all [HandlerSet.place, HandlerSet.find?, Pattern.slot, Pattern.key]
  | extension suffix =>
    obtain ⟨extension, inserted, _⟩ := ordered.3.exists_insert? free handler
    have bound := ordered.3.find?_insert? inserted
    split <;> cases q <;> simp_all [HandlerSet.place, HandlerSet.find?, Pattern.slot, Pattern.key]
  | root | exact path =>
    obtain ⟨exact, inserted, _⟩ := ordered.1.exists_insert? free handler
    have bound := ordered.1.find?_insert? inserted
    split <;> cases q <;> simp_all [HandlerSet.place, HandlerSet.find?, Pattern.slot, Pattern.key]

/-- **A handler removed is one binding less.** -/
theorem find?_remove? (ordered : set.WellFormed) (removed : set.remove? p = some next)
    (q : Pattern) : next.find? q = if q.slot = p.slot then none else set.find? q := by
  cases p with
  | fallback =>
    obtain ⟨_, _, rfl⟩ := Option.map_eq_some_iff.1 removed
    split <;> cases q <;> simp_all [HandlerSet.find?, Pattern.slot]
  | wildcard lead =>
    obtain ⟨wildcard, erased, rfl⟩ := Option.map_eq_some_iff.1 removed
    have bound := ordered.2.find?_erase? erased
    split <;> cases q <;> simp_all [HandlerSet.find?, Pattern.slot, Pattern.key]
  | extension suffix =>
    obtain ⟨extension, erased, rfl⟩ := Option.map_eq_some_iff.1 removed
    have bound := ordered.3.find?_erase? erased
    split <;> cases q <;> simp_all [HandlerSet.find?, Pattern.slot, Pattern.key]
  | root | exact path =>
    obtain ⟨exact, erased, rfl⟩ := Option.map_eq_some_iff.1 removed
    have bound := ordered.1.find?_erase? erased
    split <;> cases q <;> simp_all [HandlerSet.find?, Pattern.slot, Pattern.key]

/-- A handler that is there can be removed. -/
theorem exists_remove? (ordered : set.WellFormed) (held : set.find? p = some handler) :
    ∃ next, set.remove? p = some next := by
  have named {t : Table (Handler W)} (sorted : t.Ordered) {key : String}
      (there : t.find? key = some handler) : ∃ shorter, t.erase? key = some shorter := by
    apply Option.ne_none_iff_exists'.1
    rw [Ne, sorted.erase?_eq_none_iff, ← sorted.find?_eq_none_iff, there]
    exact Option.some_ne_none handler
  cases p with
  | fallback => exact ⟨_, Option.map_eq_some_iff.2 ⟨handler, held, rfl⟩⟩
  | wildcard lead =>
    obtain ⟨wildcard, erased⟩ := named ordered.2 held
    exact ⟨_, Option.map_eq_some_iff.2 ⟨wildcard, erased, rfl⟩⟩
  | extension suffix =>
    obtain ⟨extension, erased⟩ := named ordered.3 held
    exact ⟨_, Option.map_eq_some_iff.2 ⟨extension, erased, rfl⟩⟩
  | root | exact path =>
    obtain ⟨exact, erased⟩ := named ordered.1 held
    exact ⟨_, Option.map_eq_some_iff.2 ⟨exact, erased, rfl⟩⟩

/-! ## A set by its bindings -/

/-- Two sets in order that answer alike are one set. -/
theorem ext (ordered : set.WellFormed) (nextOrdered : next.WellFormed)
    (same : ∀ q, set.find? q = next.find? q) : set = next := by
  have exact : set.exact = next.exact :=
    ordered.1.ext nextOrdered.1 fun path => same (.exact path)
  have wildcard : set.wildcard = next.wildcard :=
    ordered.2.ext nextOrdered.2 fun lead => same (.wildcard lead)
  have extension : set.extension = next.extension :=
    ordered.3.ext nextOrdered.3 fun suffix => same (.extension suffix)
  have fallback : set.fallback = next.fallback := same .fallback
  have nesting : set.nesting = next.nesting := by
    apply ordered.4.unique
    rw [wildcard]
    exact nextOrdered.4
  cases set
  cases next
  simp_all

end WellFormed

/-! ## What is there stays -/

/-- The set with a handler in a slot that was free, or else as it was. -/
def put (set : HandlerSet W) (p : Pattern) (handler : Handler W) : HandlerSet W :=
  match set.find? p with
  | none => set.place p handler
  | some _ => set

theorem put_of_free (free : set.find? p = none) (handler : Handler W) :
    set.put p handler = set.place p handler := by
  rw [put, free]

theorem put_of_held {existing : Handler W} (held : set.find? p = some existing)
    (handler : Handler W) : set.put p handler = set := by
  rw [put, held]

namespace WellFormed

theorem put (ordered : set.WellFormed) (p : Pattern) (handler : Handler W) :
    (set.put p handler).WellFormed := by
  unfold HandlerSet.put
  split
  · exact ordered.place p handler
  · exact ordered

theorem find?_put (ordered : set.WellFormed) (p : Pattern) (handler : Handler W) (q : Pattern) :
    (set.put p handler).find? q =
      if q.slot = p.slot then (set.find? p).or (some handler) else set.find? q := by
  unfold HandlerSet.put
  cases free : set.find? p with
  | none => exact ordered.find?_place_eq free handler q
  | some existing =>
    dsimp only
    split
    · rename_i here
      rw [← find?_slot, here, find?_slot, free, Option.some_or]
    · rfl

/-- Handlers for different slots may come in any order. -/
theorem put_comm (ordered : set.WellFormed) (away : q.slot ≠ p.slot)
    (handler handler' : Handler W) :
    (set.put p handler).put q handler' = (set.put q handler').put p handler := by
  have first := ordered.put p handler
  have second := ordered.put q handler'
  apply (first.put q handler').ext (second.put p handler)
  intro other
  rw [first.find?_put, second.find?_put, ordered.find?_put, ordered.find?_put, ordered.find?_put,
    ordered.find?_put, if_neg away, if_neg away.symm]
  by_cases here : other.slot = p.slot
  · have there : other.slot ≠ q.slot := fun same => away (same.symm.trans here)
    rw [if_pos here, if_neg there, if_pos here]
  · rw [if_neg here, if_neg here]

/-! ## Undoing a change -/

/-- **A handler removed after it was added leaves the set that it was added to**,
though its nesting was raised on the way and is now counted afresh. -/
theorem remove?_place (ordered : set.WellFormed) (free : set.find? p = none)
    (handler : Handler W) : (set.place p handler).remove? p = some set := by
  have placed := ordered.place p handler
  obtain ⟨back, removed⟩ := placed.exists_remove? (ordered.find?_place free handler)
  have same : back = set := by
    apply (placed.remove? removed).ext ordered
    intro q
    rw [placed.find?_remove? removed, ordered.find?_place_eq free]
    split
    · rename_i here
      rw [← find?_slot, here, find?_slot, free]
    · rfl
  rw [removed, same]

/-- **A handler added after it was removed makes the set whole again.** -/
theorem place_of_remove? (ordered : set.WellFormed) (held : set.find? p = some handler)
    (removed : set.remove? p = some next) : next.find? p = none ∧ next.place p handler = set := by
  have smaller := ordered.remove? removed
  have free : next.find? p = none := (ordered.find?_remove? removed p).trans (if_pos rfl)
  refine ⟨free, ?_⟩
  apply (smaller.place p handler).ext ordered
  intro q
  rw [smaller.find?_place_eq free, ordered.find?_remove? removed]
  split
  · rename_i here
    rw [← find?_slot, here, find?_slot, held]
  · rfl

end WellFormed

end HandlerSet

end VirtualHosting
