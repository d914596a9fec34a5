/-
# Proofs.HostSelection — which host entry serves a name

A request names its host in any mixture of letter cases, and the table is
searched by folded names. The names of a router are stored folded, so a search
that folds is an exact search for the folded name, and an entry is found by its
own name before anything else is tried.

* `requestedEntry?_of_find?`: a host string that is a stored name selects its entry;
* `exists_servingEntry?`: with a default host that exists, every name is served.
-/
import VirtualHosting.Proofs.FoldedSearch
import VirtualHosting.Proofs.MountSelection

namespace VirtualHosting

set_option autoImplicit false

/-! ## Names of the table -/

namespace Router

variable {H A W : Type} {r : Router H A W} {name : String} {entry : HostEntry H A W}

theorem entry?_of_find? (ordered : r.entries.Ordered)
    (there : r.entries.find? name = some entry) : r.entries.entry? name = some (name, entry) :=
  ordered.entry?_eq_some_iff.2 ⟨ordered.find?_eq_some_iff.1 there, rfl⟩

/-- An entry is found by its own name. -/
theorem servingEntry?_of_find? (ordered : r.WellFormed)
    (there : r.entries.find? name = some entry) : r.servingEntry? name = some (name, entry) := by
  have named := Table.mem_names_of_mem (ordered.ordered.find?_eq_some_iff.1 there)
  have found : r.entries.entryFolded? name = some (name, entry) := by
    rw [Table.entryFolded?_eq_entry? ordered.folded, ordered.folded name named,
      entry?_of_find? ordered.ordered there]
  unfold servingEntry? entryFor?
  rw [found]
  rfl

/-- A host string that is a stored name selects the entry under it. -/
theorem requestedEntry?_of_find? (ordered : r.WellFormed)
    (there : r.entries.find? name = some entry) (named : name ≠ "") :
    r.requestedEntry? name = some (name, entry) := by
  unfold requestedEntry?
  rw [if_neg named, Option.bind_some, servingEntry?_of_find? ordered there]

/-- Where the default host is in the table, every name is served. -/
theorem exists_servingEntry? (ordered : r.WellFormed) {standIn : String}
    (default : r.defaultHost = some standIn) (there : r.entries.find? standIn = some entry)
    (name : String) : ∃ e, r.servingEntry? name = some e := by
  unfold servingEntry?
  rw [default, Option.bind_some, entry?_of_find? ordered.ordered there]
  cases r.entryFor? name with
  | none => exact ⟨_, rfl⟩
  | some e => exact ⟨e, rfl⟩

end Router

end VirtualHosting
