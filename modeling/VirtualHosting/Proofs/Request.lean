/-
# Proofs.Request — the version that a request selects

A lookup goes from a host string to an entry, on to a mount and to a version, and
only then to a handler. `requestedVersion?` stops at the version and says where
it is deployed, so whatever concerns one version can be stated of the requests
that select it.

* `requestedVersion?_eq_some_iff`: it is the version of the most specific mount
  that is to serve the request;
* `Sound.version?_of_requestedVersion?`: it is deployed at the place given;
* `exists_resolve_eq`, `exists_resolve_eq_of_none`: a result is its version's, or
  stops at the host.
-/
import VirtualHosting.Proofs.HostSelection

namespace VirtualHosting

set_option autoImplicit false

variable {H A W : Type}

/-- A result that has got as far as a version. -/
def Resolution.upTo (serving : H) (path : String) (application : Application A W)
    (version : Version A W) : Resolution H A W where
  host := some serving
  application := some version.target
  versions := if application.versions.size > 1
    then application.versions.values.map (·.target) else []
  slashCount := version.slashCount
  applicationPath := path

/-- No more than one version of an application is to serve a request. -/
theorem Application.Serves.unique {application : Application A W}
    (ordered : application.versions.Ordered) {requested : Option String} {label label' : String}
    {version version' : Version A W} (serves : application.Serves requested label version)
    (serves' : application.Serves requested label' version') :
    (label, version) = (label', version') := by
  have named := Table.mem_names_of_mem serves.deployed
  have named' := Table.mem_names_of_mem serves'.deployed
  refine ordered.eq_of_mem serves.deployed serves'.deployed ?_
  by_cases met : ∃ want ∈ requested, want ∈ application.versions.names
  · obtain ⟨want, asked, there⟩ := met
    exact (serves.asked want asked there).trans (serves'.asked want asked there).symm
  · have unmet : ∀ want ∈ requested, want ∉ application.versions.names :=
      fun want asked there => met ⟨want, asked, there⟩
    exact le_antisymm (serves'.greatest unmet label named) (serves.greatest unmet label' named')

/-- The version found to serve is the one that is to. -/
theorem Application.WellFormed.servingVersion?_eq_some_iff {application : Application A W}
    {path : String} (ordered : application.WellFormed path) {requested : Option String}
    {label : String} {version : Version A W} :
    Router.servingVersion? application.versions requested = some (label, version) ↔
      application.Serves requested label version := by
  obtain ⟨label', version', chosen, serves⟩ := exists_servingVersion ordered requested
  rw [chosen, Option.some_inj]
  constructor
  · intro same
    obtain ⟨rfl, rfl⟩ := Prod.mk.inj same
    exact serves
  · exact serves.unique ordered.ordered

/-- Two results that name the same host, application and versions. -/
structure Resolution.Alike (first second : Resolution H A W) : Prop where
  host : first.host = second.host
  application : first.application = second.application
  versions : first.versions = second.versions
  slashCount : first.slashCount = second.slashCount

namespace Resolution.Alike

variable {first second third : Resolution H A W}

theorem symm (alike : first.Alike second) : second.Alike first :=
  ⟨alike.1.symm, alike.2.symm, alike.3.symm, alike.4.symm⟩

theorem trans (alike : first.Alike second) (alike' : second.Alike third) : first.Alike third :=
  ⟨alike.1.trans alike'.1, alike.2.trans alike'.2, alike.3.trans alike'.3,
    alike.4.trans alike'.4⟩

end Resolution.Alike

/-- Selecting a handler changes none of these. -/
theorem Resolution.alike_complete (result : Resolution H A W) (uri : String)
    (selection : Selection W) : (result.complete uri selection).Alike result :=
  ⟨result.host_complete uri selection, result.application_complete uri selection,
    result.versions_complete uri selection, result.slashCount_complete uri selection⟩

/-- Neither does a version that may be paused. -/
theorem Resolution.alike_reached (result : Resolution H A W) (uri : String)
    (version : Version A W) :
    (if version.paused then result else result.complete uri (version.select uri).value).Alike
      result := by
  split
  · exact ⟨rfl, rfl, rfl, rfl⟩
  · exact result.alike_complete uri _

namespace Router

variable {r : Router H A W} {host uri : String} {requested : Option String}
  {place : Coordinates} {version : Version A W}

/-- The host that serves a request. -/
def servingHost? (r : Router H A W) (host : String) : Option (Host H A W) :=
  (r.requestedEntry? host).bind fun e => r.hostBehind? e.2

theorem servingHost?_of_requestedEntry? {e : String × HostEntry H A W} {serving : Host H A W}
    (selected : r.requestedEntry? host = some e) (behind : r.hostBehind? e.2 = some serving) :
    r.servingHost? host = some serving := by
  rw [servingHost?, selected, Option.bind_some, behind]

/-- The version that a request selects and the place where it is deployed. -/
def requestedVersion? (r : Router H A W) (host uri : String) (requested : Option String) :
    Option (Coordinates × Version A W) := do
  let e ← r.requestedEntry? host
  let serving ← r.hostBehind? e.2
  let mount ← serving.mounts.select? uri
  let chosen ← servingVersion? mount.2.versions requested
  return (⟨e.2.realName e.1, mount.1, chosen.1⟩, chosen.2)

theorem mem_of_requested {e : String × HostEntry H A W}
    (selected : r.requestedEntry? host = some e) : e ∈ r.entries.toList := by
  obtain ⟨name, _, found⟩ := Option.bind_eq_some_iff.1 selected
  exact mem_of_serving found

/-- The host that serves is the one behind the entry selected, under its own name. -/
theorem Sound.host?_of_requestedEntry? (sound : r.Sound) {e : String × HostEntry H A W}
    (selected : r.requestedEntry? host = some e) :
    r.host? (e.2.realName e.1) = r.hostBehind? e.2 :=
  (hostBehind?_of_find?
    (sound.wellFormed.ordered.find?_eq_some_iff.2 (mem_of_requested selected))).symm

/-- The steps to a version. -/
theorem exists_of_requestedVersion? (found : r.requestedVersion? host uri requested =
    some (place, version)) :
    ∃ e serving application, r.requestedEntry? host = some e ∧
      r.hostBehind? e.2 = some serving ∧ place.host = e.2.realName e.1 ∧
      serving.mounts.select? uri = some (place.path, application) ∧
      servingVersion? application.versions requested = some (place.version, version) := by
  simp only [requestedVersion?, Option.bind_eq_bind, Option.bind_eq_some_iff, Option.pure_def,
    Option.some.injEq, Prod.mk.injEq] at found
  obtain ⟨e, selected, serving, behind, mount, mounted, chosen, serves, rfl, rfl⟩ := found
  exact ⟨e, serving, mount.2, selected, behind, rfl, mounted, serves⟩

/-- The version selected is deployed at the place given. -/
theorem Sound.version?_of_requestedVersion? (sound : r.Sound)
    (found : r.requestedVersion? host uri requested = some (place, version)) :
    r.version? place = some version := by
  obtain ⟨e, serving, application, selected, behind, named, mounted, chosen⟩ :=
    exists_of_requestedVersion? found
  have known : r.host? place.host = some serving := by
    rw [named, sound.host?_of_requestedEntry? selected, behind]
  have ordered := sound.wellFormed.of_host? known
  have best := ordered.select?_eq_some_iff.1 mounted
  have wellFormed := ordered.applications _ _ best.mem
  have serves := wellFormed.servingVersion?_eq_some_iff.1 chosen
  refine version?_eq_some_iff.2 ⟨serving, application, known, ?_, ?_⟩
  · exact ordered.ordered.find?_eq_some_iff.2 best.mem
  · exact wellFormed.ordered.find?_eq_some_iff.2 serves.deployed

/-- A deployed version carries the path it is mounted at. -/
theorem WellFormed.of_version? (ordered : r.WellFormed) (there : r.version? place = some version) :
    version.WellFormed place.path := by
  obtain ⟨host, application, known, mounted, deployed⟩ := version?_eq_some_iff.1 there
  have wellFormed := (ordered.of_host? known).of_find? mounted
  exact wellFormed.versions _ _ (wellFormed.ordered.find?_eq_some_iff.1 deployed)

/-- **A request selects the version that is to serve it**, of the application
mounted most specifically on the host behind the entry it selects. -/
theorem requestedVersion?_eq_some_iff (sound : r.Sound) :
    r.requestedVersion? host uri requested = some (place, version) ↔
      ∃ e serving application, r.requestedEntry? host = some e ∧
        r.hostBehind? e.2 = some serving ∧ place.host = e.2.realName e.1 ∧
        serving.mounts.applications.MostSpecific uri (place.path, application) ∧
        application.Serves requested place.version version := by
  have selects {e : String × HostEntry H A W} {serving : Host H A W}
      (selected : r.requestedEntry? host = some e) (behind : r.hostBehind? e.2 = some serving) :
      serving.mounts.WellFormed :=
    sound.wellFormed.of_host? ((sound.host?_of_requestedEntry? selected).trans behind)
  constructor
  · intro found
    obtain ⟨e, serving, application, selected, behind, named, mounted, chosen⟩ :=
      exists_of_requestedVersion? found
    have ordered := selects selected behind
    have best := ordered.select?_eq_some_iff.1 mounted
    have serves := (ordered.applications _ _ best.mem).servingVersion?_eq_some_iff.1 chosen
    exact ⟨e, serving, application, selected, behind, named, best, serves⟩
  · rintro ⟨e, serving, application, selected, behind, named, best, serves⟩
    have ordered := selects selected behind
    have chosen := (ordered.applications _ _ best.mem).servingVersion?_eq_some_iff.2 serves
    have mounted := ordered.select?_eq_some_iff.2 best
    simp only [requestedVersion?, Option.bind_eq_bind, selected, Option.bind_some, behind, mounted,
      chosen, ← named]
    rfl

/-! ## Results -/

/-- A result depends on the host that serves, and on no name. -/
theorem value_resolve (r : Router H A W) (host uri : String) (requested : Option String) :
    (r.resolve host uri requested).value =
      match r.servingHost? host with
      | none => .unresolved
      | some serving =>
        (resolveOn serving.mounts serving.target host uri requested).value := by
  unfold resolve servingHost? requestedEntry?
  cases (if host = "" then r.defaultHost else some host) with
  | none => rfl
  | some name =>
    simp only [Option.bind_some]
    cases (r.servingEntry? name).bind fun e => r.hostBehind? e.2 with
    | none => rfl
    | some serving => simp only [value_resolveOn]

/-- The target of the host that serves is in the result. -/
theorem host_resolve (r : Router H A W) (host uri : String) (requested : Option String) :
    (r.resolve host uri requested).value.host = (r.servingHost? host).map (·.target) := by
  rw [value_resolve]
  cases r.servingHost? host with
  | none => rfl
  | some serving =>
    simp only [value_resolveOn, Option.map_some]
    cases serving.mounts.select? uri with
    | none => rfl
    | some mount =>
      dsimp only
      cases servingVersion? mount.2.versions requested with
      | none => rfl
      | some chosen =>
        dsimp only
        split
        · rfl
        · cases (chosen.2.select uri).value <;> rfl

/-- With a default host that is there, every request has a host to serve it. -/
theorem Sound.exists_servingHost? (sound : r.Sound) {standIn : String} {entry : HostEntry H A W}
    (default : r.defaultHost = some standIn) (there : r.entries.find? standIn = some entry)
    (host : String) : ∃ serving, r.servingHost? host = some serving := by
  have named : ∃ name, (if host = "" then r.defaultHost else some host) = some name := by
    split
    · exact ⟨standIn, default⟩
    · exact ⟨host, rfl⟩
  obtain ⟨name, asked⟩ := named
  obtain ⟨e, found⟩ := exists_servingEntry? sound.wellFormed default there name
  obtain ⟨serving, behind, _⟩ := sound.exists_hostBehind (mem_of_serving found)
  refine ⟨serving, ?_⟩
  rw [servingHost?, requestedEntry?, asked, Option.bind_some, found, Option.bind_some, behind]

/-- A result is that of the version selected. -/
theorem exists_resolve_eq
    (found : r.requestedVersion? host uri requested = some (place, version)) :
    ∃ serving application, (r.resolve host uri requested).value =
      let reached : Resolution H A W := .upTo serving place.path application version
      if version.paused then reached else reached.complete uri (version.select uri).value := by
  obtain ⟨e, serving, application, selected, behind, _, mounted, chosen⟩ :=
    exists_of_requestedVersion? found
  refine ⟨serving.target, application, ?_⟩
  rw [value_resolve, servingHost?_of_requestedEntry? selected behind]
  simp only [value_resolveOn, mounted, chosen]
  rfl

/-- A result has the host and the application of the place where its version is
deployed. -/
theorem Sound.resolve_reached (sound : r.Sound)
    (found : r.requestedVersion? host uri requested = some (place, version)) :
    ∃ serving application, r.host? place.host = some serving ∧
      serving.mounts.find? place.path = some application ∧
      (r.resolve host uri requested).value =
        let reached : Resolution H A W := .upTo serving.target place.path application version
        if version.paused then reached else reached.complete uri (version.select uri).value := by
  obtain ⟨e, serving, application, selected, behind, named, mounted, chosen⟩ :=
    exists_of_requestedVersion? found
  have known : r.host? place.host = some serving := by
    rw [named, sound.host?_of_requestedEntry? selected, behind]
  have ordered := sound.wellFormed.of_host? known
  have best := ordered.select?_eq_some_iff.1 mounted
  refine ⟨serving, application, known, ordered.ordered.find?_eq_some_iff.2 best.mem, ?_⟩
  rw [value_resolve, servingHost?_of_requestedEntry? selected behind]
  simp only [value_resolveOn, mounted, chosen]
  rfl

/-- Up to its handler a result depends on the version selected and on no request. -/
theorem Sound.alike_resolve (sound : r.Sound)
    (found : r.requestedVersion? host uri requested = some (place, version)) :
    ∃ serving application, r.host? place.host = some serving ∧
      serving.mounts.find? place.path = some application ∧
      (r.resolve host uri requested).value.Alike
        (.upTo serving.target place.path application version) := by
  obtain ⟨serving, application, known, mounted, value⟩ := sound.resolve_reached found
  refine ⟨serving, application, known, mounted, ?_⟩
  rw [value]
  exact Resolution.alike_reached _ uri version

/-- A result without a version stops at the host. -/
theorem exists_resolve_eq_of_none (sound : r.Sound)
    (missing : r.requestedVersion? host uri requested = none) :
    ∃ serving, (r.resolve host uri requested).value = { host := serving } := by
  rw [value_resolve]
  cases known : r.servingHost? host with
  | none => exact ⟨none, rfl⟩
  | some serving =>
    obtain ⟨e, selected, behind⟩ := Option.bind_eq_some_iff.1 known
    have ordered : serving.mounts.WellFormed :=
      sound.wellFormed.of_host? ((sound.host?_of_requestedEntry? selected).trans behind)
    refine ⟨some serving.target, ?_⟩
    simp only [value_resolveOn]
    cases mounted : serving.mounts.select? uri with
    | none => rfl
    | some mount =>
      -- a mounted application has a version, so this is no way to end
      have best := ordered.select?_eq_some_iff.1 mounted
      obtain ⟨label, version, chosen, _⟩ :=
        exists_servingVersion (ordered.applications _ _ best.mem) requested
      simp [requestedVersion?, selected, behind, mounted, chosen] at missing

end Router

end VirtualHosting
