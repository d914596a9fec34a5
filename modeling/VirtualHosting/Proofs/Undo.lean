/-
# Proofs.Undo — adding and removing handlers undo each other

A handler is added in one way and removed in another: an insertion raises the
nesting of the wildcards where it has to, a removal counts the slashes of those
that are left. What makes them inverse is that a set in order is what it answers
(`HandlerSet.WellFormed.ext`), so it is enough that one binding comes and the same
one goes. A router carries the change of a set to one version and no further.

* `HandlerSet.WellFormed.remove?_of_add`, `HandlerSet.WellFormed.add_of_remove?`: on a
  set of handlers;
* `Sound.removeHandler_of_added`, `Sound.addHandler_of_removed`: on a version;
* `Reachable.handlers_inverse`: on every set and every router there is.
-/
import VirtualHosting.Proofs.Atomicity
import VirtualHosting.Proofs.Contents
import VirtualHosting.Proofs.Slots

namespace VirtualHosting

set_option autoImplicit false

variable {H A W : Type} [DecidableEq W]

/-! ## Sets of handlers -/

namespace HandlerSet.WellFormed

variable {set next : HandlerSet W} {p : Pattern} {target : W} {flags : HandlerFlags}
  {handler : Handler W}

theorem remove?_of_add (ordered : set.WellFormed) (added : set.add p target flags = .changed next) :
    next.find? p = some ⟨target, flags⟩ ∧ next.remove? p = some set := by
  obtain ⟨free, rfl⟩ := add_eq_changed_iff.1 added
  exact ⟨ordered.find?_place free _, ordered.remove?_place free _⟩

theorem add_of_remove? (ordered : set.WellFormed) (held : set.find? p = some handler) :
    ∃ next, set.remove? p = some next ∧ next.find? p = none ∧
      next.add p handler.target handler.flags = .changed set := by
  obtain ⟨next, removed⟩ := ordered.exists_remove? held
  obtain ⟨free, whole⟩ := ordered.place_of_remove? held removed
  exact ⟨next, removed, free, add_eq_changed_iff.2 ⟨free, whole.symm⟩⟩

end HandlerSet.WellFormed

/-! ## Versions -/

namespace Router

variable [DecidableEq A] {r : Router H A W} {place : Coordinates} {pattern : String} {p : Pattern}
  {version : Version A W}

/-- A handler that was added can be removed, and the router is as before. -/
theorem Sound.removeHandler_of_added (sound : r.Sound) {target : W} {flags : HandlerFlags}
    (added : (r.addHandler place pattern target flags).value.1 = .ok .added) :
    ((r.addHandler place pattern target flags).value.2.removeHandler place pattern).value =
      (.ok true, r) := by
  obtain ⟨p, version, read, deployed, free, after⟩ := exists_of_addHandler_added added
  have ordered := (sound.wellFormed.of_version? (find_eq_ok_iff.1 deployed)).handlers
  have placed : version.handlers.Step (version.handlers.place p ⟨target, flags⟩) := .place free _
  have undone := ordered.remove?_place free ⟨target, flags⟩
  rw [after, value_removeHandler, read, find_modifyVersion sound.wellFormed deployed]
  simp only [Version.withHandlers, undone]
  exact congrArg _ (modifyVersion_back sound deployed (.handlers placed)
    (.handlers (.remove undone)) rfl)

/-- A handler that was removed can be added, and the router is as before. -/
theorem Sound.addHandler_of_removed (sound : r.Sound) (read : Pattern.parse pattern = .ok p)
    (deployed : r.find place = .ok version) {handler : Handler W}
    (held : version.handlers.find? p = some handler) :
    (r.removeHandler place pattern).value.1 = .ok true ∧
      ((r.removeHandler place pattern).value.2.addHandler place pattern handler.target
        handler.flags).value = (.ok .added, r) := by
  have ordered := (sound.wellFormed.of_version? (find_eq_ok_iff.1 deployed)).handlers
  obtain ⟨next, removed, _, added⟩ := ordered.add_of_remove? held
  have answer : (r.removeHandler place pattern).value =
      (.ok true, r.modifyVersion place (·.withHandlers next)) := by
    simp only [value_removeHandler, read, deployed, removed]
  rw [answer]
  refine ⟨rfl, ?_⟩
  rw [value_addHandler, read, find_modifyVersion sound.wellFormed deployed]
  simp only [Version.withHandlers, added]
  exact congrArg _ (modifyVersion_back sound deployed (.handlers (.remove removed))
    (.handlers (.add added)) rfl)

/-- **Adding a handler and removing one are inverse.** Whatever set a handler was
added to is left when it is removed again, tables, fallback and nesting, and a set
that a handler was removed from is whole when it is added again. In between the
handler is there, or is not. Carried out on a
version, the two calls lead back to the router they started from, so no lookup can
tell that anything happened. -/
theorem Reachable.handlers_inverse [DecidableEq H] (reachable : r.Reachable)
    {set : HandlerSet W} (reached : set.Reachable) :
    (∀ p target flags next, set.add p target flags = .changed next →
      next.find? p = some ⟨target, flags⟩ ∧ next.remove? p = some set) ∧
    (∀ p handler, set.find? p = some handler →
      ∃ next, set.remove? p = some next ∧ next.find? p = none ∧
        next.add p handler.target handler.flags = .changed set) ∧
    (∀ place pattern target flags,
      (r.run (.addHandler place pattern target flags)).value.1 = .registration .added →
      ((r.after (.addHandler place pattern target flags)).run
        (.removeHandler place pattern)).value = (.flag true, r)) ∧
    ∀ place pattern p version handler, Pattern.parse pattern = .ok p →
      r.find place = .ok version → version.handlers.find? p = some handler →
      (r.run (.removeHandler place pattern)).value.1 = .flag true ∧
        ((r.after (.removeHandler place pattern)).run
          (.addHandler place pattern handler.target handler.flags)).value =
            (.registration .added, r) := by
  have ordered := reached.wellFormed
  have sound := reachable.sound
  refine ⟨?_, ?_, ?_, ?_⟩
  · intro p target flags next added
    exact ordered.remove?_of_add added
  · intro p handler held
    exact ordered.add_of_remove? held
  · intro place pattern target flags added
    have done := Reply.ofRegistration_eq_registration_iff.1 added
    have undone := sound.removeHandler_of_added done
    exact congrArg (Prod.map Reply.ofFlag id) undone
  · intro place pattern p version handler read deployed held
    obtain ⟨removed, restored⟩ := sound.addHandler_of_removed read deployed held
    exact ⟨congrArg Reply.ofFlag removed, congrArg (Prod.map Reply.ofRegistration id) restored⟩

/-- A handler for everything below `/x`. -/
def oneWildcard : HandlerSet Nat :=
  HandlerSet.empty.place (.wildcard "/x") ⟨7, {}⟩

/-- A version with that handler. -/
def wildcardVersion : Router Nat Nat Nat :=
  runAll empty [.deploy "h" 0 { path := "/a", target := 1, handlers := [⟨"/x/*", 7, {}⟩] }]

/-- A deeper wildcard raises the nesting, and takes it down again when it leaves. The
wildcard that was there can leave and come back as well. -/
theorem handlers_inverse_oneWildcard :
    (oneWildcard.place (.wildcard "/x/y/z") ⟨8, {}⟩).nesting = 3 ∧ oneWildcard.nesting = 1 ∧
      (oneWildcard.place (.wildcard "/x/y/z") ⟨8, {}⟩).remove? (.wildcard "/x/y/z") =
        some oneWildcard ∧
      ((wildcardVersion.after (.addHandler ⟨"h", "/a", ""⟩ "/x/y/z/*" 8 {})).run
        (.removeHandler ⟨"h", "/a", ""⟩ "/x/y/z/*")).value = (.flag true, wildcardVersion) ∧
      ((wildcardVersion.after (.removeHandler ⟨"h", "/a", ""⟩ "/x/*")).run
        (.addHandler ⟨"h", "/a", ""⟩ "/x/*" 7 {})).value =
          (.registration .added, wildcardVersion) := by
  have reached : oneWildcard.Reachable := .step .empty (.place (HandlerSet.find?_empty _) _)
  have reachable : wildcardVersion.Reachable := ⟨_, rfl⟩
  have added : oneWildcard.add (.wildcard "/x/y/z") 8 {} =
      .changed (oneWildcard.place (.wildcard "/x/y/z") ⟨8, {}⟩) :=
    HandlerSet.add_of_free (by decide +kernel) 8 {}
  have deployed : (wildcardVersion.version? (stored ⟨"h", "/a", ""⟩)).any
      (fun v => v.handlers.find? (.wildcard "/x") == some ⟨7, {}⟩) = true := by decide +kernel
  obtain ⟨version, there, held⟩ := (Option.any_eq_true _ _).1 deployed
  obtain ⟨undone, _, restored, regained⟩ := reachable.handlers_inverse reached
  refine ⟨by decide +kernel, by decide +kernel, ?_, ?_, ?_⟩
  · exact (undone (.wildcard "/x/y/z") 8 {} _ added).2
  · exact restored ⟨"h", "/a", ""⟩ "/x/y/z/*" 8 {} (by decide +kernel)
  · exact (regained ⟨"h", "/a", ""⟩ "/x/*" (.wildcard "/x") version ⟨7, {}⟩ (by decide +kernel)
      (find_eq_ok_iff.2 there) (beq_iff_eq.1 held)).2

end Router

end VirtualHosting
