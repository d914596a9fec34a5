/-
# Proofs.Gathering — the handlers of a deployment, one list for one set

The handlers of a deployment are gathered in the order in which they are listed. One
after the other they are put into the set, where a slot that is taken stays as it is. So
the set holds for every pattern the first handler listed for it, and what is listed
later for another target is reported once for each time it is.

* `value_gather_put`, `errorEvents_gather_put`: one handler more;
* `find?_gather`, `find?_gather_empty`: the first handler is held;
* `errorEvents_gather`: a handler is reported where the set that comes of it has another
  target for its pattern.
-/
import VirtualHosting.Proofs.Interchange

namespace VirtualHosting

set_option autoImplicit false

variable {W : Type}

/-! ## Errors of a log -/

/-- The events that report a refused registration. -/
def errorEvents (log : List Event) : List Event :=
  log.filter fun e => e.level == .error

theorem errorEvents_append (first second : List Event) :
    errorEvents (first ++ second) = errorEvents first ++ errorEvents second :=
  List.filter_append ..

/-! ## One handler of a list -/

namespace HandlerMapping

variable {mapping : HandlerMapping W}

/-- The set has another target for the pattern of the mapping. -/
def overruled [DecidableEq W] (mapping : HandlerMapping W) (set : HandlerSet W) : Bool :=
  match Pattern.parse mapping.pattern with
  | .ok p => (set.find? p).any fun h => h.target != mapping.target
  | .error _ => false

theorem overruled_eq [DecidableEq W] (mapping : HandlerMapping W) {p : Pattern}
    (read : Pattern.parse mapping.pattern = .ok p) (set : HandlerSet W) :
    mapping.overruled set = (set.find? p).any fun h => h.target != mapping.target := by
  rw [overruled, read]

/-- Only the pattern as it is written leads to a slot. -/
theorem offers_eq {written : String} {p : Pattern} (read : Pattern.parse written = .ok p) :
    mapping.offers p =
      if mapping.pattern = written then some ⟨mapping.target, mapping.flags⟩ else none := by
  unfold offers
  cases read' : Pattern.parse mapping.pattern with
  | error fault =>
    have other : mapping.pattern ≠ written := by
      intro same
      rw [same, read] at read'
      cases read'
    rw [if_neg other]
  | ok p' =>
    dsimp only
    by_cases same : mapping.pattern = written
    · rw [same, read] at read'
      rw [if_pos same, if_pos (congrArg Pattern.slot (Except.ok.inj read'))]
    · rw [if_neg same, if_neg fun slots => same (Pattern.eq_of_slot_eq read read' slots).symm]

end HandlerMapping

namespace Router

theorem errorEvents_readPattern (written : String) :
    errorEvents (readPattern written).log = [] := by
  unfold readPattern
  cases Pattern.parse written with
  | error fault => rfl
  | ok p =>
    dsimp only
    split <;> rfl

variable [DecidableEq W] {application : String} {set next : HandlerSet W}
  {mapping : HandlerMapping W} {rest mappings : List (HandlerMapping W)} {p : Pattern}

theorem value_gather_put (read : Pattern.parse mapping.pattern = .ok p) :
    (gather application set (mapping :: rest)).value =
      (gather application (set.put p ⟨mapping.target, mapping.flags⟩) rest).value := by
  rw [value_gather_cons, read]
  dsimp only
  cases held : set.find? p with
  | none => rw [HandlerSet.add_of_free held, HandlerSet.put_of_free held]
  | some existing =>
    rw [HandlerSet.add_of_held held, HandlerSet.put_of_held held]
    by_cases own : existing.target = mapping.target
    · rw [if_pos own]
    · rw [if_neg own]

/-- A handler is reported where its slot is taken for another target. -/
theorem errorEvents_gather_put (read : Pattern.parse mapping.pattern = .ok p) :
    errorEvents (gather application set (mapping :: rest)).log =
      (if mapping.overruled set then [.patternDropped mapping.pattern application] else []) ++
        errorEvents
          (gather application (set.put p ⟨mapping.target, mapping.flags⟩) rest).log := by
  have taken := mapping.overruled_eq read set
  rw [gather, Logged.log_bind, errorEvents_append, errorEvents_readPattern, value_readPattern,
    read, List.nil_append]
  dsimp only
  cases held : set.find? p with
  | none =>
    rw [held, Option.any_none] at taken
    rw [HandlerSet.add_of_free held, HandlerSet.put_of_free held, taken]
    simp
  | some existing =>
    rw [held, Option.any_some] at taken
    rw [HandlerSet.add_of_held held, HandlerSet.put_of_held held, taken]
    by_cases own : existing.target = mapping.target
    · simp [own]
    · rw [if_neg own, Logged.log_bind, errorEvents_append, Pattern.text_of_parse read]
      simp [own, errorEvents, Event.level]

/-! ## The list -/

/-- A set that is gathered holds for every pattern what was held before, or else the
first handler listed for it. -/
theorem find?_gather (ordered : set.WellFormed)
    (gathered : (gather application set mappings).value = .ok next) (q : Pattern) :
    next.find? q = (set.find? q).or (mappings.findSome? (·.offers q)) := by
  induction mappings generalizing set with
  | nil =>
    obtain rfl := Except.ok.inj gathered
    exact Option.or_none.symm
  | cons mapping rest held =>
    cases read : Pattern.parse mapping.pattern with
    | error fault =>
      rw [value_gather_cons, read] at gathered
      cases gathered
    | ok p =>
      rw [value_gather_put read] at gathered
      rw [held (ordered.put p _) gathered, ordered.find?_put, List.findSome?_cons,
        HandlerMapping.offers, read]
      dsimp only
      by_cases here : q.slot = p.slot
      · rw [if_pos here, if_pos here, ← HandlerSet.find?_slot _ q, here, HandlerSet.find?_slot,
          Option.or_assoc]
        rfl
      · rw [if_neg here, if_neg here]

/-- A set that is gathered from nothing has for every pattern the first handler that is
listed for it. -/
theorem find?_gather_empty {handlers : HandlerSet W}
    (gathered : (gather application .empty mappings).value = .ok handlers) {written : String}
    {q : Pattern} (read : Pattern.parse written = .ok q) :
    handlers.find? q =
      (mappings.find? (·.pattern == written)).map fun first => ⟨first.target, first.flags⟩ := by
  rw [find?_gather HandlerSet.wellFormed_empty gathered, HandlerSet.find?_empty, Option.none_or]
  clear gathered
  induction mappings with
  | nil => rfl
  | cons mapping rest first =>
    rw [List.findSome?_cons, HandlerMapping.offers_eq read, List.find?_cons]
    by_cases same : mapping.pattern = written
    · rw [if_pos same, beq_iff_eq.2 same]
      rfl
    · rw [if_neg same, beq_eq_false_iff_ne.2 same]
      exact first

/-- **Handlers are reported that do not agree with the set that is gathered.** -/
theorem errorEvents_gather (ordered : set.WellFormed)
    (gathered : (gather application set mappings).value = .ok next) :
    errorEvents (gather application set mappings).log =
      (mappings.filter (·.overruled next)).map fun mapping =>
        .patternDropped mapping.pattern application := by
  induction mappings generalizing set with
  | nil => rfl
  | cons mapping rest reported =>
    cases read : Pattern.parse mapping.pattern with
    | error fault =>
      rw [value_gather_cons, read] at gathered
      cases gathered
    | ok p =>
      rw [errorEvents_gather_put read]
      rw [value_gather_put read] at gathered
      have grown := ordered.put p ⟨mapping.target, mapping.flags⟩
      -- what the slot holds now it holds in the end
      have final := find?_gather grown gathered p
      rw [ordered.find?_put, if_pos rfl, Option.or_assoc] at final
      have same : mapping.overruled next = mapping.overruled set := by
        rw [mapping.overruled_eq read, mapping.overruled_eq read, final]
        cases set.find? p with
        | some existing => rfl
        | none => simp
      rw [reported grown gathered, List.filter_cons, same]
      cases mapping.overruled set <;> rfl

end Router

end VirtualHosting
