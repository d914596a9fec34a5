/-
# Proofs.Aliases — aliases and hosts name each other

An alias entry names its host, and the host lists the alias. The two are written
at different places, so that they agree is an invariant: `Coherent` says that an
alias leads to a host and never to another alias, and that the list of a host
holds exactly the names that lead to it, each once.

* `Coherent.attach`, `Coherent.detach`: entry and list change together;
* `Edit.coherent`: every edit keeps a router coherent.
-/
import VirtualHosting.Proofs.WellFormed

namespace VirtualHosting.Router

set_option autoImplicit false

variable {H A W : Type} {r : Router H A W} {name host : String}

/-! ## Entries of a changed host -/

/-- Changing a host touches no alias. -/
theorem find?_modifyHost_eq_aliasOf_iff (ordered : r.entries.Ordered)
    {f : Host H A W → Host H A W} {key owner : String} :
    (r.modifyHost name f).entries.find? key = some (.aliasOf owner) ↔
      r.entries.find? key = some (.aliasOf owner) := by
  rw [find?_modifyHost ordered]
  split
  · rw [Option.map_eq_some_iff]
    constructor
    · rintro ⟨_ | _, stored, same⟩
      · cases same
      · exact same ▸ stored
    · intro stored
      exact ⟨_, stored, rfl⟩
  · exact Iff.rfl

theorem find?_modifyHost_eq_real_iff (ordered : r.entries.Ordered)
    {f : Host H A W → Host H A W} {key : String} {next : Host H A W} :
    (r.modifyHost name f).entries.find? key = some (.real next) ↔
      ∃ old, r.entries.find? key = some (.real old) ∧
        next = if key = name then f old else old := by
  simp only [← host?_eq_some_iff, host?_modifyHost ordered]
  split
  · simp only [Option.map_eq_some_iff, eq_comm (a := next)]
  · simp

/-! ## The invariant -/

/-- Aliases and hosts name each other. -/
structure Coherent (r : Router H A W) : Prop where
  owned : ∀ name owner, r.entries.find? name = some (.aliasOf owner) →
    ∃ host, r.entries.find? owner = some (.real host)
  nodup : ∀ name host, r.entries.find? name = some (.real host) → host.aliases.Nodup
  listed : ∀ name host, r.entries.find? name = some (.real host) →
    ∀ other, other ∈ host.aliases ↔ r.entries.find? other = some (.aliasOf name)

namespace Coherent

theorem empty : (Router.empty : Router H A W).Coherent where
  owned name owner there := by
    rw [show (Router.empty : Router H A W).entries.find? name = none from Table.find?_empty name]
      at there
    cases there
  nodup name host there := by
    rw [← host?_eq_some_iff, host?_empty] at there
    cases there
  listed name host there := by
    rw [← host?_eq_some_iff, host?_empty] at there
    cases there

/-- Neither the default host nor the index is looked at. -/
theorem congr {r next : Router H A W} (coherent : r.Coherent) (same : next.entries = r.entries) :
    next.Coherent := by
  obtain ⟨h₁, h₂, h₃⟩ := coherent
  exact ⟨same ▸ h₁, same ▸ h₂, same ▸ h₃⟩

/-- A change of a host other than to its aliases. -/
theorem modifyHost (coherent : r.Coherent) (ordered : r.entries.Ordered)
    {f : Host H A W → Host H A W} (keeps : ∀ host, (f host).aliases = host.aliases) :
    (r.modifyHost name f).Coherent := by
  have aliases {key : String} {old : Host H A W} :
      (if key = name then f old else old).aliases = old.aliases := by
    split
    · exact keeps old
    · rfl
  refine ⟨fun key owner there => ?_, fun key host there => ?_, fun key host there other => ?_⟩
  · rw [find?_modifyHost_eq_aliasOf_iff ordered] at there
    obtain ⟨old, known⟩ := coherent.owned key owner there
    exact ⟨_, (find?_modifyHost_eq_real_iff ordered).2 ⟨old, known, rfl⟩⟩
  · obtain ⟨old, known, rfl⟩ := (find?_modifyHost_eq_real_iff ordered).1 there
    rw [aliases]
    exact coherent.nodup key old known
  · obtain ⟨old, known, rfl⟩ := (find?_modifyHost_eq_real_iff ordered).1 there
    rw [aliases, find?_modifyHost_eq_aliasOf_iff ordered]
    exact coherent.listed key old known other

theorem modifyMounts (coherent : r.Coherent) (ordered : r.entries.Ordered) (name : String)
    (f : Mounts A W → Mounts A W) : (r.modifyMounts name f).Coherent :=
  coherent.modifyHost ordered fun _ => rfl

/-- No alias leads to a free name. -/
theorem ne_of_find?_eq_none (coherent : r.Coherent) (free : r.entries.find? name = none)
    {other owner : String} (there : r.entries.find? other = some (.aliasOf owner)) :
    owner ≠ name := by
  rintro rfl
  obtain ⟨host, known⟩ := coherent.owned other owner there
  cases free.symm.trans known

/-- A new host has no aliases, since no alias led to a name without an entry. -/
theorem enter (coherent : r.Coherent) (ordered : r.entries.Ordered) {target : H}
    {entries : Table (HostEntry H A W)}
    (inserted : r.entries.insert? name (.real { target }) = some entries) :
    ({ r with entries } : Router H A W).Coherent := by
  have free : r.entries.find? name = none :=
    ordered.find?_eq_none_iff.2 (ordered.not_mem_of_insert? inserted)
  have reading := ordered.find?_insert? inserted
  have aliased (other owner : String) : entries.find? other = some (.aliasOf owner) ↔
      r.entries.find? other = some (.aliasOf owner) := by
    rw [reading]
    split
    · rename_i here
      subst here
      simp [free]
    · exact Iff.rfl
  have hosted (key : String) (host : Host H A W) : entries.find? key = some (.real host) ↔
      (key = name ∧ host = { target }) ∨ r.entries.find? key = some (.real host) := by
    rw [reading]
    split
    · rename_i here
      subst here
      simp [free, eq_comm]
    · rename_i elsewhere
      simp [elsewhere]
  refine ⟨fun other owner there => ?_, fun key host there => ?_, fun key host there other => ?_⟩
  · obtain ⟨host, known⟩ := coherent.owned other owner ((aliased other owner).1 there)
    exact ⟨host, (hosted owner host).2 (.inr known)⟩
  · rcases (hosted key host).1 there with ⟨_, rfl⟩ | known
    · exact List.nodup_nil
    · exact coherent.nodup key host known
  · rw [aliased]
    rcases (hosted key host).1 there with ⟨rfl, rfl⟩ | known
    · constructor
      · intro mem
        cases mem
      · intro stored
        exact absurd rfl (coherent.ne_of_find?_eq_none free stored)
    · exact coherent.listed key host known other

/-- An alias comes into the table and onto the list of its host. -/
theorem attach (coherent : r.Coherent) (ordered : r.entries.Ordered) {owner : Host H A W}
    (owned : r.host? host = some owner) {entries : Table (HostEntry H A W)}
    (inserted : r.entries.insert? name (.aliasOf host) = some entries) :
    (({ r with entries } : Router H A W).modifyHost host
      fun h => { h with aliases := h.aliases ++ [name] }).Coherent := by
  have free : r.entries.find? name = none :=
    ordered.find?_eq_none_iff.2 (ordered.not_mem_of_insert? inserted)
  have reading := ordered.find?_insert? inserted
  have nextOrdered := ordered.insert? inserted
  rw [host?_eq_some_iff] at owned
  have aliased (other key : String) : entries.find? other = some (.aliasOf key) ↔
      (other = name ∧ key = host) ∨ r.entries.find? other = some (.aliasOf key) := by
    rw [reading]
    split
    · rename_i here
      subst here
      simp [free, eq_comm]
    · rename_i elsewhere
      simp [elsewhere]
  have hosted (key : String) (old : Host H A W) : entries.find? key = some (.real old) ↔
      r.entries.find? key = some (.real old) := by
    rw [reading]
    split
    · rename_i here
      subst here
      simp [free]
    · exact Iff.rfl
  refine ⟨fun other key there => ?_, fun key next there => ?_, fun key next there other => ?_⟩
  · rw [find?_modifyHost_eq_aliasOf_iff nextOrdered, aliased] at there
    have known : ∃ old, r.entries.find? key = some (.real old) := by
      rcases there with ⟨_, rfl⟩ | there
      · exact ⟨owner, owned⟩
      · exact coherent.owned other key there
    obtain ⟨old, known⟩ := known
    exact ⟨_, (find?_modifyHost_eq_real_iff nextOrdered).2 ⟨old, (hosted key old).2 known, rfl⟩⟩
  · obtain ⟨old, known, rfl⟩ := (find?_modifyHost_eq_real_iff nextOrdered).1 there
    rw [hosted] at known
    have distinct := coherent.nodup key old known
    split
    · refine distinct.append (List.nodup_singleton name) ?_
      rw [List.disjoint_singleton, coherent.listed key old known, free]
      simp
    · exact distinct
  · obtain ⟨old, known, rfl⟩ := (find?_modifyHost_eq_real_iff nextOrdered).1 there
    rw [hosted] at known
    rw [find?_modifyHost_eq_aliasOf_iff nextOrdered, aliased, ← coherent.listed key old known]
    split
    · rename_i here
      simp [here, or_comm]
    · rename_i elsewhere
      simp [elsewhere]

/-- An alias leaves the table and the list of its host. -/
theorem detach (coherent : r.Coherent) (ordered : r.entries.Ordered)
    (known : r.entries.find? name = some (.aliasOf host)) {entries : Table (HostEntry H A W)}
    (erased : r.entries.erase? name = some entries) :
    (({ r with entries } : Router H A W).modifyHost host
      fun h => { h with aliases := h.aliases.erase name }).Coherent := by
  have reading := ordered.find?_erase? erased
  have nextOrdered := ordered.erase? erased
  have aliased (other key : String) : entries.find? other = some (.aliasOf key) ↔
      other ≠ name ∧ r.entries.find? other = some (.aliasOf key) := by
    rw [reading]
    split <;> simp [*]
  have hosted (key : String) (old : Host H A W) : entries.find? key = some (.real old) ↔
      r.entries.find? key = some (.real old) := by
    rw [reading]
    split
    · rename_i here
      simp [here, known]
    · exact Iff.rfl
  refine ⟨fun other key there => ?_, fun key next there => ?_, fun key next there other => ?_⟩
  · rw [find?_modifyHost_eq_aliasOf_iff nextOrdered, aliased] at there
    obtain ⟨old, stored⟩ := coherent.owned other key there.2
    exact ⟨_, (find?_modifyHost_eq_real_iff nextOrdered).2 ⟨old, (hosted key old).2 stored, rfl⟩⟩
  · obtain ⟨old, stored, rfl⟩ := (find?_modifyHost_eq_real_iff nextOrdered).1 there
    rw [hosted] at stored
    have distinct := coherent.nodup key old stored
    split
    · exact distinct.erase name
    · exact distinct
  · obtain ⟨old, stored, rfl⟩ := (find?_modifyHost_eq_real_iff nextOrdered).1 there
    rw [hosted] at stored
    rw [find?_modifyHost_eq_aliasOf_iff nextOrdered, aliased, ← coherent.listed key old stored]
    split
    · rw [(coherent.nodup key old stored).mem_erase_iff]
    · -- the alias that leaves is on the list of its own host only
      rename_i elsewhere
      refine ⟨fun mem => ⟨?_, mem⟩, fun mem => mem.2⟩
      rintro rfl
      rw [coherent.listed key old stored, known] at mem
      exact elsewhere (HostEntry.aliasOf.inj (Option.some.inj mem)).symm

/-- A host leaves with its aliases. -/
theorem leave (coherent : r.Coherent) (ordered : r.entries.Ordered) :
    ({ r with entries := r.entries.filter fun e => !e.2.belongsTo name e.1 } :
      Router H A W).Coherent := by
  have aliased (other key : String) :
      (r.entries.filter fun e => !e.2.belongsTo name e.1).find? other = some (.aliasOf key) ↔
        r.entries.find? other = some (.aliasOf key) ∧ key ≠ name := by
    rw [ordered.find?_filter, Option.filter_eq_some_iff]
    simp [HostEntry.belongsTo, HostEntry.realName]
  have hosted (key : String) (host : Host H A W) :
      (r.entries.filter fun e => !e.2.belongsTo name e.1).find? key = some (.real host) ↔
        r.entries.find? key = some (.real host) ∧ key ≠ name := by
    rw [ordered.find?_filter, Option.filter_eq_some_iff]
    simp [HostEntry.belongsTo, HostEntry.realName]
  refine ⟨fun other owner there => ?_, fun key host there => ?_, fun key host there other => ?_⟩
  · obtain ⟨there, left⟩ := (aliased other owner).1 there
    obtain ⟨host, known⟩ := coherent.owned other owner there
    exact ⟨host, (hosted owner host).2 ⟨known, left⟩⟩
  · exact coherent.nodup key host ((hosted key host).1 there).1
  · obtain ⟨known, left⟩ := (hosted key host).1 there
    rw [coherent.listed key host known]
    exact ⟨fun stored => (aliased other key).2 ⟨stored, left⟩,
      fun stored => ((aliased other key).1 stored).1⟩

end Coherent

variable [DecidableEq A] [DecidableEq W] {next : Router H A W}

/-- **Every edit keeps a router coherent.** -/
theorem Edit.coherent (edit : Edit r next) (ordered : r.WellFormed) (coherent : r.Coherent) :
    next.Coherent := by
  cases edit with
  | setDefault => exact coherent.congr rfl
  | enterHost inserted => exact coherent.enter ordered.ordered inserted
  | enterAlias owned inserted => exact coherent.attach ordered.ordered owned inserted
  | dropHost => exact (coherent.leave ordered.ordered).congr rfl
  | dropAlias known erased => exact coherent.detach ordered.ordered known erased
  | @deploy name _ _ _ published =>
    exact (coherent.modifyMounts ordered.ordered name fun _ => published).congr rfl
  | @undeploy place _ _ _ remaining =>
    have shrunk := coherent.modifyMounts ordered.ordered place.host fun mounts =>
      if remaining.isEmpty then (mounts.remove? place.path).getD mounts
      else mounts.modifyVersions place.path fun _ => remaining
    exact shrunk.congr rfl
  | revise => exact coherent.modifyMounts ordered.ordered _ _

end VirtualHosting.Router
