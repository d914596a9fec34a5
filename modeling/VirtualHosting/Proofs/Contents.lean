/-
# Proofs.Contents — a router is what it holds

A router that is in order holds no more than can be asked of it: which names there
are, what is deployed where, the default host and the index. Two routers that agree
on these are one value, nesting bounds, order of entries and lists of versions
included. So whether two runs of calls end alike is a question about four maps.

* `WellFormed.ext`: routers that answer alike are the same;
* `modifyVersion_back`: a change of one version that is taken back.
-/
import VirtualHosting.Proofs.Additions

namespace VirtualHosting.Router

set_option autoImplicit false

variable {H A W : Type} {r next : Router H A W}

/-- A host is what its name stands for and what is deployed on it. -/
theorem WellFormed.host?_eq (ordered : r.WellFormed) (nextOrdered : next.WellFormed)
    (listed : next.listing = r.listing) (versions : ∀ place, next.version? place = r.version? place)
    (name : String) : next.host? name = r.host? name := by
  have real {card : Host H A W} :
      (∃ found, next.host? name = some found ∧ { found with mounts := .empty } = card) ↔
        ∃ found, r.host? name = some found ∧ { found with mounts := .empty } = card := by
    rw [← listing_eq_real_iff, ← listing_eq_real_iff, listed]
  cases known : r.host? name with
  | none =>
    apply Option.eq_none_iff_forall_ne_some.2
    intro found there
    obtain ⟨owner, impossible, _⟩ := real.1 ⟨found, there, rfl⟩
    cases known.symm.trans impossible
  | some owner =>
    obtain ⟨found, there, same⟩ := real.2 ⟨owner, known, rfl⟩
    have mounts : found.mounts = owner.mounts := by
      apply (ordered.of_host? known).ext (nextOrdered.of_host? there)
      intro path label
      have agree := versions ⟨name, path, label⟩
      rw [version?, version?, there, known] at agree
      exact agree
    rw [there]
    cases found
    cases owner
    simp_all

/-- **Routers in order that answer alike are one router.** -/
theorem WellFormed.ext (ordered : r.WellFormed) (nextOrdered : next.WellFormed)
    (listed : next.listing = r.listing) (versions : ∀ place, next.version? place = r.version? place)
    (default : next.defaultHost = r.defaultHost) (index : next.index = r.index) : next = r := by
  have hosts := ordered.host?_eq nextOrdered listed versions
  have entries : next.entries = r.entries := by
    apply nextOrdered.ordered.ext ordered.ordered
    intro name
    have stands := congrFun listed name
    cases there : r.entries.find? name with
    | none =>
      rw [← listing_eq_none_iff, stands, listing_eq_none_iff]
      exact there
    | some entry =>
      cases entry with
      | aliasOf owner =>
        rw [← listing_eq_aliasOf_iff, stands, listing_eq_aliasOf_iff]
        exact there
      | real owner =>
        rw [← host?_eq_some_iff, hosts, host?_eq_some_iff]
        exact there
  cases next
  cases r
  simp_all

variable [DecidableEq A] [DecidableEq W]

/-- A change of one version that another one takes back. -/
theorem modifyVersion_back (sound : r.Sound) {place : Coordinates} {version : Version A W}
    (deployed : r.find place = .ok version) {f g : Version A W → Version A W}
    (revision : version.Revision (f version)) (revision' : (f version).Revision (g (f version)))
    (back : g (f version) = version) : (r.modifyVersion place f).modifyVersion place g = r := by
  have first := places_modifyVersion sound deployed revision
  have changed : (r.modifyVersion place f).find place = .ok (f version) := by
    rw [find_eq_ok_iff, first.version?, if_pos rfl]
  have second := places_modifyVersion first.sound changed revision'
  have both := first.trans second
  apply sound.wellFormed.ext both.sound.wellFormed both.listing _ both.defaultHost rfl
  intro other
  rw [both.version?, back]
  exact ((Places.refl sound (find_eq_ok_iff.1 deployed)).version? other).symm

end VirtualHosting.Router
