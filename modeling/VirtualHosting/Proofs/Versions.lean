/-
# Proofs.Versions — what is deployed

A version lies three tables deep: under a host, a path and a label.
`Router.version?` reads the three at once, and this module says how it changes
with the router: names that come bring no versions, and a change of a host's
mounts in one place is a change in one place. `Router.deployments` is the list of
all that is deployed, each place once.

* `version?_insert`, `version?_modifyAliases`: names change nothing;
* `version?_modifyMounts_update`, `version?_modifyVersion`: one place changes;
* `exists_deployOn_free`, `value_deployOn_taken`: deploying on a place that is free,
  and on one that is not;
* `mem_deployments_iff`, `nodup_places`: the list of everything deployed.
-/
import VirtualHosting.Proofs.Mounts

namespace VirtualHosting

set_option autoImplicit false

variable {H A W : Type}

/-- Lists made entry by entry from an ordered table share nothing if what they
hold still tells the name. -/
theorem Table.Ordered.nodup_flatMap {β γ : Type} {t : Table β} (ordered : t.Ordered)
    {f : String × β → List γ} (name : γ → String) (named : ∀ e, ∀ c ∈ f e, name c = e.1)
    (each : ∀ e ∈ t.toList, (f e).Nodup) : (t.toList.flatMap f).Nodup := by
  refine List.nodup_flatMap.2 ⟨each, (Table.ordered_iff.1 ordered).imp fun {e e'} below => ?_⟩
  intro c mem mem'
  exact below.ne ((named e c mem).symm.trans (named e' c mem'))

namespace Router

variable {r : Router H A W} {name : String}

/-! ## Names -/

/-- A new name has nothing deployed on it. -/
theorem version?_insert (ordered : r.entries.Ordered) {entry : HostEntry H A W}
    {entries : Table (HostEntry H A W)} (inserted : r.entries.insert? name entry = some entries)
    (bare : ∀ host, entry = .real host → host.mounts = .empty) (place : Coordinates) :
    ({ r with entries } : Router H A W).version? place = r.version? place := by
  have reading := ordered.find?_insert? inserted
  by_cases here : place.host = name
  · have entered : entries.find? place.host = some entry := by rw [reading, if_pos here]
    have before : r.host? place.host = none := here ▸ host?_eq_none_of_insert? ordered inserted
    rw [version?, version?, before]
    cases entry with
    | aliasOf owner => simp only [host?, entered, Option.bind_none]
    | real host =>
      have after : ({ r with entries } : Router H A W).host? place.host = some host :=
        host?_eq_some_iff.2 entered
      rw [after, Option.bind_some, bare host rfl, Mounts.version?, Mounts.find?_empty]
      rfl
  · rw [version?, version?, host?_congr (r := r) ((reading place.host).trans (if_neg here))]

/-- The alias list of a host has nothing to do with its versions. -/
theorem version?_modifyAliases (ordered : r.entries.Ordered) (name : String)
    (f : List String → List String) (place : Coordinates) :
    (r.modifyHost name fun host => { host with aliases := f host.aliases }).version? place =
      r.version? place := by
  rw [version?, version?, host?_modifyHost ordered]
  split
  · cases r.host? place.host <;> rfl
  · rfl

/-! ## One host changes -/

theorem version?_modifyMounts (ordered : r.entries.Ordered) {host : Host H A W}
    (known : r.host? name = some host) (f : Mounts A W → Mounts A W) (place : Coordinates) :
    (r.modifyMounts name f).version? place =
      if place.host = name then (f host.mounts).version? place.path place.version
      else r.version? place := by
  rw [version?, host?_modifyMounts ordered]
  split
  · rename_i here
    rw [here, known]
    rfl
  · rfl

/-- A change of a host's mounts in one place is a change in one place. -/
theorem version?_modifyMounts_update (ordered : r.entries.Ordered) {host : Host H A W}
    (known : r.host? name = some host) {f : Mounts A W → Mounts A W} {path label : String}
    {bound : Option (Version A W)}
    (changed : ∀ path' label', (f host.mounts).version? path' label' =
      if path' = path ∧ label' = label then bound else host.mounts.version? path' label')
    (place : Coordinates) :
    (r.modifyMounts name f).version? place =
      if place = ⟨name, path, label⟩ then bound else r.version? place := by
  obtain ⟨host', path', label'⟩ := place
  simp only [version?_modifyMounts ordered known, Coordinates.mk.injEq]
  by_cases here : host' = name
  · subst here
    simp only [if_true, true_and, changed, version?, known, Option.bind_some]
  · rw [if_neg here, if_neg fun all => here all.1]

/-- A free place of a host receives what is deployed there. -/
theorem exists_deployOn_free [DecidableEq A] {mounts : Mounts A W} (ordered : mounts.WellFormed)
    {deployment : Deployment A W}
    (free : mounts.version? deployment.path deployment.version = none) (r : Router H A W)
    (host : String) (handlers : HandlerSet W) :
    ∃ published, (r.deployOn host mounts deployment handlers).value =
        (.added, { r.modifyMounts host fun _ => published with
          index := r.index.record deployment.target
            ⟨host, deployment.path, deployment.version⟩ }) ∧
      ∀ path' label', published.version? path' label' =
        if path' = deployment.path ∧ label' = deployment.version
        then some (deployment.publication handlers) else mounts.version? path' label' := by
  obtain ⟨published, done, changed⟩ :=
    ordered.publish_free free (deployment.publication handlers)
  refine ⟨published, ?_, changed⟩
  rw [value_deployOn, done]

/-- A place that is taken is left as it is, and so is the router. -/
theorem value_deployOn_taken [DecidableEq A] {mounts : Mounts A W} (ordered : mounts.WellFormed)
    {deployment : Deployment A W} {existing : Version A W}
    (taken : mounts.version? deployment.path deployment.version = some existing)
    (r : Router H A W) (host : String) (handlers : HandlerSet W) :
    (r.deployOn host mounts deployment handlers).value =
      (if existing.target = deployment.target then .unchanged else .rejected, r) := by
  have answer := ordered.publish_taken taken (deployment.publication handlers)
  rw [value_deployOn]
  by_cases same : existing.target = deployment.target
  · rw [answer.trans (congrArg (·, mounts) (if_pos same)), if_pos same]
  · rw [answer.trans (congrArg (·, mounts) (if_neg same)), if_neg same]

/-- Changing a version leaves every other one alone. -/
theorem version?_modifyVersion (ordered : r.WellFormed) {place : Coordinates}
    {version : Version A W} (deployed : r.version? (stored place) = some version)
    (f : Version A W → Version A W) (other : Coordinates) :
    (r.modifyVersion place f).version? other =
      if other = stored place then some (f version) else r.version? other := by
  obtain ⟨host, application, known, mounted, found⟩ := version?_eq_some_iff.1 deployed
  have hostOrdered := ordered.of_host? known
  have mounted : host.mounts.find? place.path = some application := mounted
  have versionsOrdered := (hostOrdered.of_find? mounted).ordered
  refine version?_modifyMounts_update ordered.ordered known (fun path label => ?_) other
  rw [hostOrdered.version?_modifyVersions mounted, versionsOrdered.find?_modify]
  by_cases there : path = place.path
  · subst there
    have same := Mounts.WellFormed.version?_of_find? mounted
    by_cases labelled : label = place.version
    · subst labelled
      rw [if_pos rfl, if_pos rfl, if_pos ⟨rfl, rfl⟩]
      exact congrArg (Option.map f) found
    · rw [if_pos rfl, if_neg labelled, if_neg fun both => labelled both.2]
      exact (same label).symm
  · rw [if_neg there, if_neg fun both => there both.1]

/-- A version that was changed is found changed. -/
theorem find_modifyVersion (ordered : r.WellFormed) {place : Coordinates} {version : Version A W}
    (deployed : r.find place = .ok version) (f : Version A W → Version A W) :
    (r.modifyVersion place f).find place = .ok (f version) := by
  rw [find_eq_ok_iff, version?_modifyVersion ordered (find_eq_ok_iff.1 deployed), if_pos rfl]

end Router

/-! ## All versions -/

/-- What is deployed under a name, with the places. -/
def HostEntry.deployments (name : String) :
    HostEntry H A W → List (Coordinates × Version A W)
  | real host => host.mounts.applications.toList.flatMap fun (path, application) =>
      application.versions.toList.map fun (label, version) => (⟨name, path, label⟩, version)
  | aliasOf _ => []

/-- Everything that is deployed, with the places. -/
def Router.deployments (r : Router H A W) : List (Coordinates × Version A W) :=
  r.entries.toList.flatMap fun (name, entry) => entry.deployments name

theorem HostEntry.mem_deployments_iff {name : String} {host : Host H A W}
    (ordered : host.mounts.WellFormed) {place : Coordinates} {version : Version A W} :
    (place, version) ∈ (HostEntry.real host).deployments name ↔
      place.host = name ∧ host.mounts.version? place.path place.version = some version := by
  obtain ⟨host', path, label⟩ := place
  simp only [deployments, List.mem_flatMap, List.mem_map, Prod.exists, Prod.mk.injEq,
    Coordinates.mk.injEq]
  constructor
  · rintro ⟨path, application, mounted, label, version, deployed, ⟨rfl, rfl, rfl⟩, rfl⟩
    have found := ordered.ordered.find?_eq_some_iff.2 mounted
    refine ⟨rfl, ?_⟩
    rw [Mounts.WellFormed.version?_of_find? found]
    exact (ordered.of_find? found).ordered.find?_eq_some_iff.2 deployed
  · rintro ⟨rfl, there⟩
    obtain ⟨application, found, deployed⟩ := Option.bind_eq_some_iff.1 there
    exact ⟨path, application, ordered.ordered.find?_eq_some_iff.1 found, label, version,
      (ordered.of_find? found).ordered.find?_eq_some_iff.1 deployed, ⟨rfl, rfl, rfl⟩, rfl⟩

namespace Router

variable {r : Router H A W}

/-- **What is listed is what is found.** -/
theorem mem_deployments_iff (ordered : r.WellFormed) {place : Coordinates}
    {version : Version A W} :
    (place, version) ∈ r.deployments ↔ r.version? place = some version := by
  simp only [deployments, List.mem_flatMap, Prod.exists]
  constructor
  · rintro ⟨name, entry, stored, listed⟩
    have there := ordered.ordered.find?_eq_some_iff.2 stored
    cases entry with
    | aliasOf owner => exact absurd listed List.not_mem_nil
    | real host =>
      have known := host?_eq_some_iff.2 there
      obtain ⟨rfl, found⟩ := (HostEntry.mem_deployments_iff (ordered.of_host? known)).1 listed
      rw [version?, known, Option.bind_some, found]
  · intro there
    obtain ⟨host, known, found⟩ := Option.bind_eq_some_iff.1 there
    exact ⟨place.host, .real host, ordered.ordered.find?_eq_some_iff.1 (host?_eq_some_iff.1 known),
      (HostEntry.mem_deployments_iff (ordered.of_host? known)).2 ⟨rfl, found⟩⟩

/-- No place is listed twice. -/
theorem nodup_places (ordered : r.WellFormed) : (r.deployments.map (·.1)).Nodup := by
  rw [deployments, List.map_flatMap]
  refine ordered.ordered.nodup_flatMap (·.host) ?_ ?_
  · rintro ⟨name, entry⟩ place mem
    obtain ⟨⟨place, version⟩, listed, rfl⟩ := List.mem_map.1 mem
    cases entry with
    | aliasOf owner => exact absurd listed List.not_mem_nil
    | real host =>
      simp only [HostEntry.deployments, List.mem_flatMap, List.mem_map, Prod.mk.injEq] at listed
      obtain ⟨_, _, _, _, rfl, _⟩ := listed
      rfl
  · rintro ⟨name, entry⟩ stored
    cases entry with
    | aliasOf owner => exact List.nodup_nil
    | real host =>
      have mounts := ordered.mounts name host stored
      dsimp only [HostEntry.deployments]
      rw [List.map_flatMap]
      refine mounts.ordered.nodup_flatMap (·.path) ?_ ?_
      · rintro ⟨path, application⟩ place mem
        simp only [List.map_map, List.mem_map] at mem
        obtain ⟨_, _, rfl⟩ := mem
        rfl
      · rintro ⟨path, application⟩ mounted
        have labels := (mounts.applications path application mounted).ordered.nodup
        rw [List.map_map]
        refine List.Nodup.of_map Coordinates.version ?_
        rw [List.map_map]
        exact labels

end Router

end VirtualHosting
