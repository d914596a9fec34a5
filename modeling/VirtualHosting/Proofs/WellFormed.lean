/-
# Proofs.WellFormed — what every search relies on

A lookup halves tables and cuts paths at a nesting bound, and gives a wrong
answer in silence if a table is out of order or a bound too low. `WellFormed`
says what must hold, level by level: of a version, of an application, of the
mounts of a host, of the router.

* `WellFormed.publish`, `WellFormed.withdraw`: publishing and withdrawing a
  version restore the bounds and leave no application without a version;
* `Edit.wellFormed`: every edit keeps a router well formed.
-/
import VirtualHosting.Proofs.Edit

namespace VirtualHosting

set_option autoImplicit false

variable {H A W : Type} {path label name : String}

/-! ## Versions -/

/-- A version carries the path it is mounted at, and its handlers are in order. -/
structure Version.WellFormed (path : String) (v : Version A W) : Prop where
  path_eq : v.path = path
  slashCount_eq : v.slashCount = Slash.count path
  handlers : v.handlers.WellFormed

theorem Version.Revision.wellFormed [DecidableEq W] {v next : Version A W}
    (revision : v.Revision next) (ordered : v.WellFormed path) : next.WellFormed path := by
  cases revision with
  | handlers step => exact ⟨ordered.1, ordered.2, step.wellFormed ordered.handlers⟩
  | pause | addWelcome | removeWelcome | clearWelcome =>
    exact ⟨ordered.1, ordered.2, ordered.handlers⟩

/-! ## Applications -/

/-- An application has a version, its labels ascend, and every version is well
formed at its path. -/
structure Application.WellFormed (path : String) (application : Application A W) : Prop where
  deployed : application.versions.names ≠ []
  ordered : application.versions.Ordered
  versions : ∀ label version, (label, version) ∈ application.versions.toList →
    version.WellFormed path

namespace Application.WellFormed

variable {application : Application A W} {version : Version A W}

theorem singleton (ordered : version.WellFormed path) (label : String) :
    (Application.mk (Table.singleton label version)).WellFormed path where
  deployed := by simp [Table.names, Table.toList, Table.singleton]
  ordered := Table.ordered_singleton label version
  versions label' version' mem := by
    obtain ⟨_, rfl⟩ := Prod.mk.inj (List.mem_singleton.1 mem)
    exact ordered

theorem insert (ordered : application.WellFormed path) (fresh : version.WellFormed path)
    {versions : Table (Version A W)}
    (inserted : application.versions.insert? label version = some versions) :
    (Application.mk versions).WellFormed path where
  deployed := List.ne_nil_of_mem ((ordered.ordered.mem_names_insert? inserted).2 (.inl rfl))
  ordered := ordered.ordered.insert? inserted
  versions label' version' mem := by
    rcases (ordered.ordered.mem_insert? inserted).1 mem with same | mem
    · obtain ⟨_, rfl⟩ := Prod.mk.inj same
      exact fresh
    · exact ordered.versions label' version' mem

theorem erase (ordered : application.WellFormed path) {versions : Table (Version A W)}
    (erased : application.versions.erase? label = some versions)
    (left : versions.isEmpty = false) : (Application.mk versions).WellFormed path where
  deployed := by
    intro none_left
    rw [Table.names, List.map_eq_nil_iff, ← Table.isEmpty_iff, left] at none_left
    cases none_left
  ordered := ordered.ordered.erase? erased
  versions label' version' mem :=
    ordered.versions label' version' ((ordered.ordered.mem_erase? erased).1 mem).1

theorem modify (ordered : application.WellFormed path) {f : Version A W → Version A W}
    (keeps : ∀ version, application.versions.find? label = some version →
      (f version).WellFormed path) :
    (Application.mk (application.versions.modify label f)).WellFormed path where
  deployed := by
    rw [Table.names_modify]
    exact ordered.deployed
  ordered := ordered.ordered.modify label f
  versions label' version' mem := by
    obtain ⟨old, mem, same⟩ := Table.mem_modify.1 mem
    have before := ordered.versions label' old mem
    split at same <;> subst same
    · rename_i here
      exact keeps old (ordered.ordered.find?_eq_some_iff.2 (here ▸ mem))
    · exact before

end Application.WellFormed

/-! ## Mounts -/

/-- Mount paths ascend, the nesting is theirs, and every application is well
formed at its path. -/
structure Mounts.WellFormed (mounts : Mounts A W) : Prop where
  ordered : mounts.applications.Ordered
  nesting : mounts.applications.HasNesting mounts.nesting
  applications : ∀ path application, (path, application) ∈ mounts.applications.toList →
    application.WellFormed path

namespace Mounts.WellFormed

variable {mounts next : Mounts A W} {application : Application A W} {version : Version A W}

theorem empty : (Mounts.empty : Mounts A W).WellFormed where
  ordered := Table.ordered_empty
  nesting := Table.hasNesting_empty
  applications _ _ mem := nomatch mem

theorem of_find? (ordered : mounts.WellFormed) (mounted : mounts.find? path = some application) :
    application.WellFormed path :=
  ordered.applications path application (ordered.ordered.find?_eq_some_iff.1 mounted)

theorem add (ordered : mounts.WellFormed) (fresh : application.WellFormed path)
    (added : mounts.add? path application = some next) : next.WellFormed := by
  obtain ⟨applications, inserted, rfl⟩ := Option.map_eq_some_iff.1 added
  refine ⟨ordered.ordered.insert? inserted, ordered.nesting.insert? ordered.ordered inserted,
    fun path' application' mem => ?_⟩
  rcases (ordered.ordered.mem_insert? inserted).1 mem with same | mem
  · obtain ⟨rfl, rfl⟩ := Prod.mk.inj same
    exact fresh
  · exact ordered.applications path' application' mem

theorem remove (ordered : mounts.WellFormed) (removed : mounts.remove? path = some next) :
    next.WellFormed := by
  obtain ⟨applications, erased, rfl⟩ := Option.map_eq_some_iff.1 removed
  exact ⟨ordered.ordered.erase? erased, applications.hasNesting_nesting,
    fun path' application' mem =>
      ordered.applications path' application' ((ordered.ordered.mem_erase? erased).1 mem).1⟩

theorem modifyVersions (ordered : mounts.WellFormed)
    {f : Table (Version A W) → Table (Version A W)}
    (keeps : ∀ application, mounts.find? path = some application →
      (Application.mk (f application.versions)).WellFormed path) :
    (mounts.modifyVersions path f).WellFormed where
  ordered := ordered.ordered.modify path _
  nesting := by
    rw [Table.HasNesting, Mounts.modifyVersions, Table.names_modify]
    exact ordered.nesting
  applications path' application' mem := by
    obtain ⟨old, stored, same⟩ := Table.mem_modify.1 mem
    have before := ordered.applications path' old stored
    split at same <;> dsimp only at same <;> subst same
    · rename_i here
      dsimp only at here
      subst here
      exact keeps old (ordered.ordered.find?_eq_some_iff.2 stored)
    · exact before

/-- Publishing a version keeps mounts well formed, whatever came of it. -/
theorem publish [DecidableEq A] (ordered : mounts.WellFormed) (fresh : version.WellFormed path)
    (label : String) : (Router.publish mounts path label version).2.WellFormed := by
  unfold Router.publish
  split
  · split
    · rename_i next added
      exact ordered.add (Application.WellFormed.singleton fresh label) added
    · exact ordered
  · rename_i application mounted
    split
    · rename_i versions inserted
      have grown := (ordered.of_find? mounted).insert fresh inserted
      exact ordered.modifyVersions (f := fun _ => versions) fun _ _ => grown
    · split
      · split <;> exact ordered
      · exact ordered

/-- Withdrawing a version keeps mounts well formed: an application whose last
version it was goes with it. -/
theorem withdraw (ordered : mounts.WellFormed) (mounted : mounts.find? path = some application)
    {remaining : Table (Version A W)}
    (erased : application.versions.erase? label = some remaining) :
    (if remaining.isEmpty then (mounts.remove? path).getD mounts
      else mounts.modifyVersions path fun _ => remaining).WellFormed := by
  split
  · cases removed : mounts.remove? path with
    | none => exact ordered
    | some next => exact ordered.remove removed
  · rename_i left
    have shrunk := (ordered.of_find? mounted).erase erased (Bool.eq_false_iff.2 left)
    exact ordered.modifyVersions (f := fun _ => remaining) fun _ _ => shrunk

end Mounts.WellFormed

/-! ## The router -/

namespace Router

/-- Names ascend and are in stored form, and what is mounted on every host is
well formed. -/
structure WellFormed (r : Router H A W) : Prop where
  ordered : r.entries.Ordered
  normal : ∀ name ∈ r.entries.names, normalizeHostName name = name
  folded : ∀ name ∈ r.entries.names, Text.fold name = name
  mounts : ∀ name host, (name, HostEntry.real host) ∈ r.entries.toList → host.mounts.WellFormed

namespace WellFormed

variable {r : Router H A W}

theorem empty : (Router.empty : Router H A W).WellFormed where
  ordered := Table.ordered_empty
  normal _ mem := nomatch mem
  folded _ mem := nomatch mem
  mounts _ _ mem := nomatch mem

theorem of_host? (ordered : r.WellFormed) {host : Host H A W} (known : r.host? name = some host) :
    host.mounts.WellFormed :=
  ordered.mounts name host (ordered.ordered.find?_eq_some_iff.1 (host?_eq_some_iff.1 known))

/-- A new entry under a name in stored form, a host of its own without mounts or
an alias. -/
theorem insert (ordered : r.WellFormed) {entry : HostEntry H A W}
    {entries : Table (HostEntry H A W)}
    (inserted : r.entries.insert? (normalizeHostName name) entry = some entries)
    (bare : ∀ host, entry = .real host → host.mounts.WellFormed) :
    ({ r with entries } : Router H A W).WellFormed where
  ordered := ordered.ordered.insert? inserted
  normal name' mem := by
    rcases (ordered.ordered.mem_names_insert? inserted).1 mem with rfl | mem
    · exact normalize_normalize name
    · exact ordered.normal name' mem
  folded name' mem := by
    rcases (ordered.ordered.mem_names_insert? inserted).1 mem with rfl | mem
    · exact fold_starSuffix (Text.fold_fold name)
    · exact ordered.folded name' mem
  mounts name' host mem := by
    rcases (ordered.ordered.mem_insert? inserted).1 mem with same | mem
    · exact bare host (Prod.mk.inj same).2.symm
    · exact ordered.mounts name' host mem

theorem modifyHost (ordered : r.WellFormed) {f : Host H A W → Host H A W}
    (keeps : ∀ host, r.host? name = some host → (f host).mounts.WellFormed) :
    (r.modifyHost name f).WellFormed where
  ordered := ordered.ordered.modify name _
  normal name' mem := ordered.normal name' (by rwa [← Table.names_modify])
  folded name' mem := ordered.folded name' (by rwa [← Table.names_modify])
  mounts name' host mem := by
    obtain ⟨old, stored, same⟩ := Table.mem_modify.1 mem
    dsimp only at stored same
    split at same
    · rename_i here
      subst here
      cases old with
      | aliasOf => cases same
      | real before =>
        obtain rfl : host = f before := HostEntry.real.inj same
        exact keeps before (host?_eq_some_iff.2 (ordered.ordered.find?_eq_some_iff.2 stored))
    · exact ordered.mounts name' host (same ▸ stored)

theorem modifyMounts (ordered : r.WellFormed) {f : Mounts A W → Mounts A W}
    (keeps : ∀ host, r.host? name = some host → (f host.mounts).WellFormed) :
    (r.modifyMounts name f).WellFormed :=
  ordered.modifyHost keeps

/-- Fewer entries, whichever they are. -/
theorem sublist (ordered : r.WellFormed) {entries : Table (HostEntry H A W)}
    (fewer : entries.Ordered) (kept : ∀ e ∈ entries.toList, e ∈ r.entries.toList) :
    ({ r with entries } : Router H A W).WellFormed where
  ordered := fewer
  normal name' mem := by
    obtain ⟨entry, stored⟩ := Table.mem_names_iff.1 mem
    exact ordered.normal name' (Table.mem_names_of_mem (kept _ stored))
  folded name' mem := by
    obtain ⟨entry, stored⟩ := Table.mem_names_iff.1 mem
    exact ordered.folded name' (Table.mem_names_of_mem (kept _ stored))
  mounts name' host mem := ordered.mounts name' host (kept _ mem)

/-- Neither the default host nor the index is looked at. -/
theorem congr {r next : Router H A W} (ordered : r.WellFormed) (same : next.entries = r.entries) :
    next.WellFormed := by
  obtain ⟨h₁, h₂, h₃, h₄⟩ := ordered
  exact ⟨same ▸ h₁, same ▸ h₂, same ▸ h₃, same ▸ h₄⟩

end WellFormed

variable [DecidableEq A] [DecidableEq W] {r next : Router H A W}

/-- **Every edit keeps a router well formed.** -/
theorem Edit.wellFormed (edit : Edit r next) (ordered : r.WellFormed) : next.WellFormed := by
  cases edit with
  | setDefault => exact ordered.congr rfl
  | enterHost inserted =>
    refine ordered.insert inserted fun host same => ?_
    obtain rfl := HostEntry.real.inj same
    exact Mounts.WellFormed.empty
  | enterAlias owned inserted =>
    have grown := ordered.insert inserted fun _ same => nomatch same
    refine grown.modifyHost fun host known => ?_
    have before := grown.of_host? known
    exact before
  | dropHost known =>
    refine (ordered.sublist (ordered.ordered.filter _) fun e mem => ?_).congr rfl
    exact (Table.mem_filter.1 mem).1
  | dropAlias known erased =>
    have shrunk := ordered.sublist (ordered.ordered.erase? erased) fun e mem =>
      ((ordered.ordered.mem_erase? erased).1 mem).1
    refine shrunk.modifyHost fun host known => ?_
    have before := shrunk.of_host? known
    exact before
  | @deploy name _ deployment handlers published known gathered done =>
    have deployed : (deployment.publication handlers).WellFormed deployment.path :=
      ⟨rfl, rfl, gathered.wellFormed⟩
    have fresh := (ordered.of_host? known).publish deployed deployment.version
    rw [done] at fresh
    have grown : (r.modifyMounts name fun _ => published).WellFormed :=
      ordered.modifyMounts fun _ _ => fresh
    exact grown.congr rfl
  | @undeploy place _ application removed remaining known mounted deployed erased =>
    have shrunk : (r.modifyMounts place.host fun mounts =>
        if remaining.isEmpty then (mounts.remove? place.path).getD mounts
        else mounts.modifyVersions place.path fun _ => remaining).WellFormed := by
      refine ordered.modifyMounts fun host there => ?_
      obtain rfl := Option.some.inj (known.symm.trans there)
      exact (ordered.of_host? known).withdraw mounted erased
    exact shrunk.congr rfl
  | revise deployed revision =>
    obtain ⟨host, application, known, mounted, there⟩ :=
      version?_eq_some_iff.1 (find_eq_ok_iff.1 deployed)
    refine ordered.modifyMounts fun host' known' => ?_
    obtain rfl := Option.some.inj (known.symm.trans known')
    have before := ordered.of_host? known
    refine before.modifyVersions fun application' mounted' => ?_
    obtain rfl := Option.some.inj (mounted.symm.trans mounted')
    refine (before.of_find? mounted).modify fun version' there' => ?_
    obtain rfl := Option.some.inj (there.symm.trans there')
    have stored := (before.of_find? mounted).ordered.find?_eq_some_iff.1 there
    exact revision.wellFormed ((before.of_find? mounted).versions _ _ stored)

end Router

end VirtualHosting
