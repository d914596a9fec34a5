/-
# Proofs.Abstraction — the ledger of a router

`Router.ledger` reads a router as two finite maps. Each change of a router that a
registration makes is a change of its ledger in one place, and some, such as a
new alias on the list of its host, are none. With these equations the calls are
compared without opening a table.

* `ledger_insert`, `ledger_erase`, `ledger_leave`: names come and go;
* `ledger_modifyMounts`: what is deployed on one host changes;
* `Sound.agrees`: a router agrees with its ledger in all it contains.
-/
import VirtualHosting.Proofs.Ledger
import VirtualHosting.Proofs.Reachable
import VirtualHosting.Proofs.Versions

namespace VirtualHosting

set_option autoImplicit false

variable {H A W : Type}

/-- What an entry of the host table says of its name. -/
def HostEntry.standing : HostEntry H A W → Standing H
  | real host => .host host.target
  | aliasOf owner => .aliasOf owner

theorem HostEntry.realName_standing (name : String) (entry : HostEntry H A W) :
    entry.standing.realName name = entry.realName name := by
  cases entry <;> rfl

namespace Router

variable {r next : Router H A W} {name : String}

/-- A router read as two finite maps. -/
def ledger (r : Router H A W) : Ledger H A where
  names key := (r.entries.find? key).map HostEntry.standing
  deployed place := (r.version? place).map (·.target)

theorem names_ledger (r : Router H A W) (key : String) :
    r.ledger.names key = (r.entries.find? key).map HostEntry.standing := rfl

theorem deployed_ledger (r : Router H A W) (place : Coordinates) :
    r.ledger.deployed place =
      ((r.host? place.host).bind fun host => host.mounts.version? place.path place.version).map
        (·.target) := rfl

theorem names_ledger_eq_host_iff {target : H} : r.ledger.names name = some (.host target) ↔
    ∃ host, r.host? name = some host ∧ host.target = target := by
  simp only [names_ledger, host?_eq_some_iff, Option.map_eq_some_iff]
  constructor
  · rintro ⟨host | _, there, same⟩
    · exact ⟨host, there, Standing.host.inj same⟩
    · cases same
  · rintro ⟨host, there, rfl⟩
    exact ⟨_, there, rfl⟩

theorem names_ledger_eq_aliasOf_iff {owner : String} :
    r.ledger.names name = some (.aliasOf owner) ↔
      r.entries.find? name = some (.aliasOf owner) := by
  rw [names_ledger, Option.map_eq_some_iff]
  constructor
  · rintro ⟨_ | _, there, same⟩
    · cases same
    · obtain rfl := Standing.aliasOf.inj same
      exact there
  · intro there
    exact ⟨_, there, rfl⟩

theorem names_ledger_eq_none_iff : r.ledger.names name = none ↔ r.entries.find? name = none := by
  rw [names_ledger, Option.map_eq_none_iff]

theorem ledger_empty : (empty : Router H A W).ledger = Ledger.empty := by
  have names : (empty : Router H A W).ledger.names = fun _ => none := by
    funext key
    exact names_ledger_eq_none_iff.2 (Table.find?_empty key)
  have deployed : (empty : Router H A W).ledger.deployed = fun _ => none := by
    funext place
    rw [deployed_ledger, host?_empty]
    rfl
  exact congrArg₂ Ledger.mk names deployed

/-! ## Names come and go -/

/-- A new name has nothing deployed on it. -/
theorem ledger_insert (ordered : r.entries.Ordered) {entry : HostEntry H A W}
    {entries : Table (HostEntry H A W)} (inserted : r.entries.insert? name entry = some entries)
    (bare : ∀ host, entry = .real host → host.mounts = .empty) :
    ({ r with entries } : Router H A W).ledger = r.ledger.enter name entry.standing := by
  have reading := ordered.find?_insert? inserted
  have names : ({ r with entries } : Router H A W).ledger.names =
      Function.update r.ledger.names name (some entry.standing) := by
    funext key
    rw [Function.update_apply, names_ledger, names_ledger, reading]
    split <;> rfl
  have deployed : ({ r with entries } : Router H A W).ledger.deployed = r.ledger.deployed := by
    funext place
    exact congrArg (Option.map _) (version?_insert ordered inserted bare place)
  exact congrArg₂ Ledger.mk names deployed

theorem ledger_enterHost (ordered : r.entries.Ordered) {target : H}
    {entries : Table (HostEntry H A W)}
    (inserted : r.entries.insert? name (.real { target }) = some entries) :
    ({ r with entries } : Router H A W).ledger = r.ledger.enter name (.host target) := by
  refine ledger_insert ordered inserted fun host same => ?_
  obtain rfl := HostEntry.real.inj same
  rfl

/-- An alias that leaves takes nothing with it. -/
theorem ledger_erase (ordered : r.entries.Ordered) {owner : String}
    (known : r.entries.find? name = some (.aliasOf owner)) {entries : Table (HostEntry H A W)}
    (erased : r.entries.erase? name = some entries) :
    ({ r with entries } : Router H A W).ledger =
      { r.ledger with names := Function.update r.ledger.names name none } := by
  have reading := ordered.find?_erase? erased
  have names : ({ r with entries } : Router H A W).ledger.names =
      Function.update r.ledger.names name none := by
    funext key
    rw [Function.update_apply, names_ledger, names_ledger, reading]
    split <;> rfl
  have deployed : ({ r with entries } : Router H A W).ledger.deployed = r.ledger.deployed := by
    funext place
    rw [deployed_ledger, deployed_ledger, host?_dropAlias ordered known erased]
  exact congrArg₂ Ledger.mk names deployed

theorem host?_leave (ordered : r.entries.Ordered) (name : String) (index : TargetIndex A)
    (key : String) :
    ({ r with
      entries := r.entries.filter fun e => !e.2.belongsTo name e.1
      index } : Router H A W).host? key = if key = name then none else r.host? key := by
  have reading := ordered.find?_filter (fun e => !e.2.belongsTo name e.1) key
  ext host
  rw [host?_eq_some_iff]
  dsimp only
  rw [reading, Option.filter_eq_some_iff]
  split
  · rename_i here
    simp [HostEntry.belongsTo, HostEntry.realName, here]
  · rename_i elsewhere
    simp [HostEntry.belongsTo, HostEntry.realName, elsewhere, host?_eq_some_iff]

/-- A host that leaves takes its aliases and all that is deployed on it. -/
theorem ledger_leave (ordered : r.entries.Ordered) (index : TargetIndex A) :
    ({ r with
      entries := r.entries.filter fun e => !e.2.belongsTo name e.1
      index } : Router H A W).ledger =
      { names := fun other =>
          (r.ledger.names other).filter fun standing => standing.realName other != name
        deployed := fun place => if place.host = name then none else r.ledger.deployed place } := by
  have reading := ordered.find?_filter fun e => !e.2.belongsTo name e.1
  refine congrArg₂ Ledger.mk (funext fun key => ?_) (funext fun place => ?_)
  · dsimp only
    rw [reading, names_ledger]
    cases r.entries.find? key with
    | none => rfl
    | some entry =>
      rw [Option.map_some, Option.filter_some, Option.filter_some, entry.realName_standing,
        HostEntry.belongsTo, bne]
      split <;> rfl
  · simp only [ledger, version?, host?_leave ordered]
    split <;> rfl

/-! ## One host changes -/

/-- The alias list of a host is no part of the ledger. -/
theorem ledger_modifyAliases (ordered : r.entries.Ordered) (name : String)
    (f : List String → List String) :
    (r.modifyHost name fun host => { host with aliases := f host.aliases }).ledger = r.ledger := by
  refine congrArg₂ Ledger.mk (funext fun key => ?_) (funext fun place => ?_)
  · rw [find?_modifyHost ordered]
    split
    · cases r.entries.find? key with
      | none => rfl
      | some entry => cases entry <;> rfl
    · rfl
  · exact congrArg (Option.map _) (version?_modifyAliases ordered name f place)

/-- Only what is deployed on the host changes. -/
theorem ledger_modifyMounts (ordered : r.entries.Ordered) {host : Host H A W}
    (known : r.host? name = some host) (f : Mounts A W → Mounts A W) :
    (r.modifyMounts name f).ledger =
      { r.ledger with
        deployed := fun place =>
          if place.host = name then
            ((f host.mounts).version? place.path place.version).map (·.target)
          else r.ledger.deployed place } := by
  have names : (r.modifyMounts name f).ledger.names = r.ledger.names := by
    funext key
    rw [names_ledger, names_ledger, modifyMounts, find?_modifyHost ordered]
    split
    · cases r.entries.find? key with
      | none => rfl
      | some entry => cases entry <;> rfl
    · rfl
  have deployed : (r.modifyMounts name f).ledger.deployed = fun place =>
      if place.host = name then
        ((f host.mounts).version? place.path place.version).map (·.target)
      else r.ledger.deployed place := by
    funext place
    refine (congrArg (Option.map _) (version?_modifyMounts ordered known f place)).trans ?_
    split <;> rfl
  exact congrArg₂ Ledger.mk names deployed

theorem deployed_ledger_of_host? {host : Host H A W} (known : r.host? name = some host)
    (path label : String) :
    r.ledger.deployed ⟨name, path, label⟩ = (host.mounts.version? path label).map (·.target) := by
  rw [deployed_ledger, known, Option.bind_some]

/-- One binding of a host's versions is one binding of the ledger. -/
theorem ledger_modifyMounts_update (ordered : r.entries.Ordered) {host : Host H A W}
    (known : r.host? name = some host) {f : Mounts A W → Mounts A W} {path label : String}
    {bound : Option (Version A W)}
    (changed : ∀ path' label', (f host.mounts).version? path' label' =
      if path' = path ∧ label' = label then bound else host.mounts.version? path' label') :
    (r.modifyMounts name f).ledger =
      { r.ledger with
        deployed := Function.update r.ledger.deployed ⟨name, path, label⟩
          (bound.map (·.target)) } := by
  rw [ledger_modifyMounts ordered known]
  refine congrArg (Ledger.mk _) (funext fun place => ?_)
  obtain ⟨host', path', label'⟩ := place
  simp only [Function.update_apply, Coordinates.mk.injEq]
  by_cases here : host' = name
  · subst here
    rw [if_pos rfl, changed, deployed_ledger_of_host? known]
    by_cases there : path' = path ∧ label' = label
    · simp [there]
    · simp [there]
  · simp [here]

/-- The ledger knows a version by its target alone. -/
theorem ledger_modifyVersion (ordered : r.WellFormed) {place : Coordinates}
    {version : Version A W} (deployed : r.find place = .ok version)
    {f : Version A W → Version A W} (keeps : (f version).target = version.target) :
    (r.modifyVersion place f).ledger = r.ledger := by
  have there := find_eq_ok_iff.1 deployed
  obtain ⟨host, application, known, _, _⟩ := version?_eq_some_iff.1 there
  have names := congrArg Ledger.names (ledger_modifyMounts ordered.ordered known
    (·.modifyVersions place.path (·.modify place.version f)))
  refine congrArg₂ Ledger.mk names (funext fun other => ?_)
  rw [version?_modifyVersion ordered there]
  split
  · rename_i here
    rw [here, there, Option.map_some, Option.map_some, keeps]
  · rfl

/-! ## Agreement -/

/-- **A router agrees with its ledger in all it contains.** -/
theorem Sound.agrees (sound : r.Sound) : r.Agrees r.ledger where
  ordered := sound.wellFormed.ordered
  names name := by
    rw [Ne, names_ledger_eq_none_iff, sound.wellFormed.ordered.find?_eq_none_iff, not_not]
  hosts name target := by
    simp only [names_ledger_eq_host_iff, host?_eq_some_iff,
      sound.wellFormed.ordered.find?_eq_some_iff]
  aliases name owner := by
    rw [names_ledger_eq_aliasOf_iff, sound.wellFormed.ordered.find?_eq_some_iff]
  listed name host mem := by
    have known := sound.wellFormed.ordered.find?_eq_some_iff.2 mem
    refine ⟨sound.coherent.nodup name host known, fun other => ?_⟩
    rw [names_ledger_eq_aliasOf_iff, sound.coherent.listed name host known]
  paths name host mem path := by
    have known := host?_eq_some_iff.2 (sound.wellFormed.ordered.find?_eq_some_iff.2 mem)
    have ordered := sound.wellFormed.of_host? known
    simp only [deployed_ledger_of_host? known, Ne, Option.map_eq_none_iff]
    exact ordered.mem_names_iff_version?
  versions name host mem path application mounted label target := by
    have known := host?_eq_some_iff.2 (sound.wellFormed.ordered.find?_eq_some_iff.2 mem)
    have ordered := sound.wellFormed.of_host? known
    have found := ordered.ordered.find?_eq_some_iff.2 mounted
    rw [deployed_ledger_of_host? known, Mounts.WellFormed.version?_of_find? found,
      Option.map_eq_some_iff]
    simp only [(ordered.of_find? found).ordered.find?_eq_some_iff]
  homed place there := by
    rw [deployed_ledger, Ne, Option.map_eq_none_iff] at there
    cases known : r.host? place.host with
    | none => exact absurd (by rw [known, Option.bind_none]) there
    | some host => exact ⟨host.target, names_ledger_eq_host_iff.2 ⟨host, known, rfl⟩⟩
  find place := by
    unfold find
    dsimp only
    split
    · rename_i free
      exact .unknownHost (names_ledger_eq_none_iff.2 free)
    · rename_i owner taken
      exact .hostIsAlias (names_ledger_eq_aliasOf_iff.2 taken)
    · rename_i host found
      have known := host?_eq_some_iff.2 found
      have standing := names_ledger_eq_host_iff.2 ⟨host, known, rfl⟩
      have deployed := deployed_ledger_of_host? known place.path
      split
      · rename_i missing
        refine .unknownApplication standing fun label => ?_
        rw [deployed, Mounts.version?, missing]
        rfl
      · rename_i application mounted
        have ordered := sound.wellFormed.of_host? known
        simp only [Mounts.WellFormed.version?_of_find? mounted] at deployed
        split
        · rename_i missing
          obtain ⟨label, there⟩ := ordered.mem_names_iff_version?.1
            (Table.mem_names_of_mem (ordered.ordered.find?_eq_some_iff.1 mounted))
          rw [Mounts.WellFormed.version?_of_find? mounted] at there
          have beside :
              r.ledger.deployed ⟨normalizeHostName place.host, place.path, label⟩ ≠ none := by
            rw [deployed, Ne, Option.map_eq_none_iff]
            exact there
          have absent : r.ledger.deployed (stored place) = none :=
            (deployed place.version).trans (by rw [missing]; rfl)
          exact .unknownVersion standing beside absent
        · rename_i version there
          exact .found standing ((deployed place.version).trans (by rw [there]; rfl))

end Router

end VirtualHosting
