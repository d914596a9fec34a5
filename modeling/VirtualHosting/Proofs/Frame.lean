/-
# Proofs.Frame — what a call about one version leaves alone

Handlers, welcome files and pauses belong to one version. A call about them finds it
three tables deep and builds every table on the way anew. What none of these calls can
change is the frame of a router: the router with all its versions emptied. It has the
host table with its aliases, the mounts with their labels and nesting bounds, the
targets, the default host and the index.

Which version a request selects is settled by names and by where anything is deployed
(`Router.Leads`), and so by the frame. Therefore no call about a version sends a request
to another one, and results change only for requests that select the version itself.

* `Table.Ordered.mapValues_modify`: a change that a map over all values does not notice;
* `frame_after`: the calls keep the frame;
* `requestedVersion?_eq_some_iff_leads`: what settles the version selected;
* `OneFrame.requestedVersion?_eq`, `OneFrame.value_resolve`: requests to two routers with
  one frame;
* `Reachable.calls_touch_one_version`: the calls, the versions and the results.
-/
import VirtualHosting.Proofs.Locality
import VirtualHosting.Proofs.Provenance

namespace VirtualHosting

set_option autoImplicit false

/-! ## A function of all values of a table -/

namespace Table

variable {β γ : Type} {t : Table β} {f : β → γ} {key : String}

/-- The table with `f` applied to every value. -/
def mapValues (f : β → γ) (t : Table β) : Table γ :=
  ⟨t.entries.map fun e => (e.1, f e.2)⟩

theorem toList_mapValues (f : β → γ) (t : Table β) :
    (t.mapValues f).toList = t.toList.map fun e => (e.1, f e.2) := by
  simp [toList, mapValues]

@[simp]
theorem names_mapValues (f : β → γ) (t : Table β) : (t.mapValues f).names = t.names := by
  rw [names, names, toList_mapValues, List.map_map]
  rfl

@[simp]
theorem values_mapValues (f : β → γ) (t : Table β) : (t.mapValues f).values = t.values.map f := by
  rw [values, values, toList_mapValues, List.map_map, List.map_map]
  rfl

@[simp]
theorem size_mapValues (f : β → γ) (t : Table β) : (t.mapValues f).size = t.size := by
  simp [size, mapValues]

theorem Ordered.mapValues (ordered : t.Ordered) (f : β → γ) : (t.mapValues f).Ordered := by
  rw [Ordered, names_mapValues]
  exact ordered

theorem Ordered.find?_mapValues (ordered : t.Ordered) (f : β → γ) (key : String) :
    (t.mapValues f).find? key = (t.find? key).map f := by
  ext value
  rw [(ordered.mapValues f).find?_eq_some_iff, toList_mapValues, List.mem_map,
    Option.map_eq_some_iff]
  constructor
  · rintro ⟨⟨name, old⟩, stored, same⟩
    obtain ⟨rfl, rfl⟩ := Prod.mk.inj same
    exact ⟨old, ordered.find?_eq_some_iff.2 stored, rfl⟩
  · rintro ⟨old, found, rfl⟩
    exact ⟨(key, old), ordered.find?_eq_some_iff.1 found, rfl⟩

/-- A change that `f` does not notice leaves what `f` makes of the table. -/
theorem Ordered.mapValues_modify (ordered : t.Ordered) {g : β → β}
    (unnoticed : ∀ value, t.find? key = some value → f (g value) = f value) :
    (t.modify key g).mapValues f = t.mapValues f := by
  have modified := ordered.modify key g
  apply (modified.mapValues f).ext (ordered.mapValues f)
  intro name
  rw [modified.find?_mapValues, ordered.find?_mapValues, ordered.find?_modify]
  by_cases here : name = key
  · rw [if_pos here, here]
    cases found : t.find? key with
    | none => rfl
    | some value => exact congrArg some (unnoticed value found)
  · rw [if_neg here]

end Table

variable {H A W : Type}

/-! ## Frames -/

/-- The version without what calls about it can change. -/
def Version.frame (v : Version A W) : Version A W :=
  { v with settings := { v.settings with welcomeFiles := [] }, handlers := .empty, paused := false }

def Application.frame (application : Application A W) : Application A W :=
  ⟨application.versions.mapValues Version.frame⟩

def Mounts.frame (mounts : Mounts A W) : Mounts A W :=
  { mounts with applications := mounts.applications.mapValues Application.frame }

def Host.frame (host : Host H A W) : Host H A W :=
  { host with mounts := host.mounts.frame }

def HostEntry.frame : HostEntry H A W → HostEntry H A W :=
  modify Host.frame

/-- The router with all its versions emptied. -/
def Router.frame (r : Router H A W) : Router H A W :=
  { r with entries := r.entries.mapValues HostEntry.frame }

theorem Version.frame_revised [DecidableEq A] (v : Version A W) (call : Call H A W) :
    (v.revised call).frame = v.frame := by
  cases call with
  | pause place target =>
    unfold revised
    dsimp only
    split <;> rfl
  | addHandler place pattern target flags =>
    unfold revised
    dsimp only
    split <;> rfl
  | removeHandler place pattern =>
    unfold revised
    dsimp only
    split <;> rfl
  | addWelcomeFile place name =>
    unfold revised
    dsimp only
    split <;> rfl
  | removeWelcomeFile | clearWelcomeFiles => rfl
  | setDefaultHost | addHost | removeHost | addAlias | removeAlias | deploy | undeploy => rfl

/-! ## One version changes -/

/-- Mounts with a version changed have the frame that they had. -/
theorem Mounts.WellFormed.frame_modifyVersions {mounts : Mounts A W} (ordered : mounts.WellFormed)
    {path label : String} {f : Version A W → Version A W}
    (unnoticed : ∀ v, mounts.version? path label = some v → (f v).frame = v.frame) :
    (mounts.modifyVersions path (·.modify label f)).frame = mounts.frame := by
  have applications :
      (mounts.modifyVersions path (·.modify label f)).applications.mapValues Application.frame =
        mounts.applications.mapValues Application.frame := by
    apply ordered.ordered.mapValues_modify
    intro application mounted
    refine congrArg Application.mk ((ordered.of_find? mounted).ordered.mapValues_modify ?_)
    intro v there
    exact unnoticed v ((version?_of_find? mounted label).trans there)
  rw [Mounts.frame, applications]
  rfl

/-- A result that got as far as a version tells no more of it than its frame does. -/
theorem Resolution.upTo_of_frame {application application' : Application A W}
    {version version' : Version A W} (applications : application'.frame = application.frame)
    (versions : version'.frame = version.frame) (serving : H) (path : String) :
    upTo serving path application' version' = upTo serving path application version := by
  have target : version'.frame.target = version.frame.target := by rw [versions]
  have mount : version'.frame.path = version.frame.path := by rw [versions]
  have size : application'.frame.versions.size = application.frame.versions.size := by
    rw [applications]
  have targets : application'.frame.versions.values.map (·.target) =
      application.frame.versions.values.map (·.target) := by rw [applications]
  simp only [Application.frame, Table.size_mapValues, Table.values_mapValues, List.map_map]
    at size targets
  have target : version'.target = version.target := target
  have mount : version'.path = version.path := mount
  have targets : application'.versions.values.map (·.target) =
      application.versions.values.map (·.target) := targets
  rw [upTo, upTo, Version.slashCount, Version.slashCount, target, mount, size, targets]

namespace Mounts.WellFormed

variable {mounts : Mounts A W} (ordered : mounts.WellFormed)
include ordered

theorem find?_frame (path : String) :
    mounts.frame.find? path = (mounts.find? path).map Application.frame :=
  ordered.ordered.find?_mapValues Application.frame path

theorem version?_frame (path label : String) :
    mounts.frame.version? path label = (mounts.version? path label).map Version.frame := by
  rw [version?, version?, ordered.find?_frame]
  cases mounted : mounts.find? path with
  | none => rfl
  | some application =>
    exact (ordered.of_find? mounted).ordered.find?_mapValues Version.frame label

end Mounts.WellFormed

namespace Router

variable {r next : Router H A W} {place : Coordinates} {host uri : String}
  {requested : Option String}

theorem frame_modifyVersion (ordered : r.WellFormed) {f : Version A W → Version A W}
    (unnoticed : ∀ v, r.version? (stored place) = some v → (f v).frame = v.frame) :
    (r.modifyVersion place f).frame = r.frame := by
  have entries : (r.modifyVersion place f).entries.mapValues HostEntry.frame =
      r.entries.mapValues HostEntry.frame := by
    apply ordered.ordered.mapValues_modify
    intro entry there
    cases entry with
    | aliasOf owner => rfl
    | real owner =>
      have known := host?_eq_some_iff.2 there
      have mounts : (owner.mounts.modifyVersions place.path (·.modify place.version f)).frame =
          owner.mounts.frame := by
        apply (ordered.of_host? known).frame_modifyVersions
        intro v deployed
        apply unnoticed v
        rw [version?, stored, known]
        exact deployed
      exact congrArg (fun mounts => HostEntry.real { owner with mounts }) mounts
  rw [frame, entries]
  rfl

theorem RevisedBy.frame_eq {f : Version A W → Version A W} (revised : r.RevisedBy place f next)
    (ordered : r.WellFormed) (unnoticed : ∀ v, (f v).frame = v.frame) : next.frame = r.frame := by
  cases revised with
  | missing | kept => rfl
  | @changed v g found same =>
    apply frame_modifyVersion ordered
    intro v' there
    obtain rfl := Option.some.inj ((find_eq_ok_iff.1 found).symm.trans there)
    rw [same]
    exact unnoticed v

/-- **The calls about a version keep the frame.** -/
theorem frame_after [DecidableEq H] [DecidableEq A] [DecidableEq W] (sound : r.Sound)
    {call : Call H A W} (about : call.revises? = some place) : (r.after call).frame = r.frame := by
  obtain ⟨spot, _, revised⟩ := exists_revisedBy r about
  exact revised.frame_eq sound.wellFormed fun v => v.frame_revised call

/-! ## What the frame tells -/

theorem host?_frame (ordered : r.entries.Ordered) (name : String) :
    r.frame.host? name = (r.host? name).map Host.frame := by
  rw [host?, host?, frame, ordered.find?_mapValues]
  cases r.entries.find? name with
  | none => rfl
  | some entry => cases entry <;> rfl

theorem realName?_frame (ordered : r.entries.Ordered) : r.frame.realName? = r.realName? := by
  funext name
  rw [realName?, realName?, names_ledger, names_ledger, frame, ordered.find?_mapValues]
  cases r.entries.find? name with
  | none => rfl
  | some entry => cases entry <;> rfl

theorem version?_frame (ordered : r.WellFormed) (place : Coordinates) :
    r.frame.version? place = (r.version? place).map Version.frame := by
  rw [version?, version?, host?_frame ordered.ordered]
  cases known : r.host? place.host with
  | none => rfl
  | some owner =>
    exact (ordered.of_host? known).version?_frame place.path place.version

/-! ## What settles the version selected -/

/-- The place of the version that is to serve a request on a host, told by where
anything is deployed: the longest path that reaches the request, and under it the label
that is requested or else the greatest. -/
structure Leads (r : Router H A W) (uri : String) (requested : Option String)
    (place : Coordinates) : Prop where
  deployed : r.version? place ≠ none
  reaches : Slash.Reaches place.path uri
  longest : ∀ path label, r.version? ⟨place.host, path, label⟩ ≠ none →
    Slash.Reaches path uri → path.length ≤ place.path.length
  asked : ∀ want ∈ requested, r.version? ⟨place.host, place.path, want⟩ ≠ none →
    place.version = want
  greatest : (∀ want ∈ requested, r.version? ⟨place.host, place.path, want⟩ = none) →
    ∀ label, r.version? ⟨place.host, place.path, label⟩ ≠ none → label ≤ place.version

theorem Leads.congr (same : ∀ place, next.version? place = none ↔ r.version? place = none)
    (leads : r.Leads uri requested place) : next.Leads uri requested place where
  deployed := mt (same _).1 leads.deployed
  reaches := leads.reaches
  longest path label there := leads.longest path label (mt (same _).2 there)
  asked want asked there := leads.asked want asked (mt (same _).2 there)
  greatest unmet label there :=
    leads.greatest (fun want asked => (same _).1 (unmet want asked)) label (mt (same _).2 there)

/-- It is the label to serve of the application mounted most specifically. -/
theorem WellFormed.leads_iff (ordered : r.WellFormed) {serving : Host H A W}
    {application : Application A W} {version : Version A W}
    (known : r.host? place.host = some serving)
    (mounted : serving.mounts.find? place.path = some application)
    (there : application.versions.find? place.version = some version) :
    r.Leads uri requested place ↔
      serving.mounts.applications.MostSpecific uri (place.path, application) ∧
        application.Serves requested place.version version := by
  have hostOrdered := ordered.of_host? known
  have versionsOrdered := (hostOrdered.of_find? mounted).ordered
  have reads (path label : String) : r.version? ⟨place.host, path, label⟩ =
      serving.mounts.version? path label := by
    rw [version?, known, Option.bind_some]
  have labelled (label : String) : r.version? ⟨place.host, place.path, label⟩ ≠ none ↔
      label ∈ application.versions.names := by
    rw [reads, Mounts.WellFormed.version?_of_find? mounted, Ne,
      versionsOrdered.find?_eq_none_iff, not_not]
  constructor
  · intro leads
    refine ⟨⟨hostOrdered.ordered.find?_eq_some_iff.1 mounted, leads.reaches, ?_⟩,
      ⟨versionsOrdered.find?_eq_some_iff.1 there, ?_, ?_⟩⟩
    · intro path named reach
      obtain ⟨label, deployed⟩ := hostOrdered.mem_names_iff_version?.1 named
      rw [← reads] at deployed
      exact leads.longest path label deployed reach
    · intro want asked named
      exact leads.asked want asked ((labelled want).2 named)
    · intro unmet label named
      refine leads.greatest (fun want asked => ?_) label ((labelled label).2 named)
      exact not_not.1 (mt (labelled want).1 (unmet want asked))
  · rintro ⟨best, serves⟩
    refine ⟨?_, best.reaches, ?_, ?_, ?_⟩
    · exact (labelled place.version).2 (Table.mem_names_of_mem serves.deployed)
    · intro path label deployed reach
      rw [reads] at deployed
      exact best.longest path (hostOrdered.mem_names_iff_version?.2 ⟨label, deployed⟩) reach
    · intro want asked deployed
      exact serves.asked want asked ((labelled want).1 deployed)
    · intro unmet label deployed
      refine serves.greatest (fun want asked named => ?_) label ((labelled label).1 deployed)
      exact (labelled want).2 named (unmet want asked)

/-- **Names and what is deployed settle the version that a request selects.** -/
theorem requestedVersion?_eq_some_iff_leads (sound : r.Sound) {version : Version A W} :
    r.requestedVersion? host uri requested = some (place, version) ↔
      r.servingName? host = some place.host ∧ r.Leads uri requested place ∧
        r.version? place = some version := by
  constructor
  · intro found
    have deployed := sound.version?_of_requestedVersion? found
    obtain ⟨serving, application, known, mounted, there⟩ := version?_eq_some_iff.1 deployed
    obtain ⟨e, serving', application', selected, behind, named, best, serves⟩ :=
      (requestedVersion?_eq_some_iff sound).1 found
    have known' : r.host? place.host = some serving' := by
      rw [named, sound.host?_of_requestedEntry? selected, behind]
    obtain rfl := Option.some.inj (known.symm.trans known')
    have mounted' := (sound.wellFormed.of_host? known).ordered.find?_eq_some_iff.2 best.mem
    obtain rfl := Option.some.inj (mounted.symm.trans mounted')
    refine ⟨?_, (sound.wellFormed.leads_iff known mounted there).2 ⟨best, serves⟩, deployed⟩
    rw [servingName?, selected, Option.map_some, named]
  · rintro ⟨serves, leads, deployed⟩
    obtain ⟨serving, application, known, mounted, there⟩ := version?_eq_some_iff.1 deployed
    obtain ⟨e, selected, named⟩ := Option.map_eq_some_iff.1 serves
    have behind : r.hostBehind? e.2 = some serving := by
      rw [← sound.host?_of_requestedEntry? selected, named, known]
    obtain ⟨best, serves⟩ := (sound.wellFormed.leads_iff known mounted there).1 leads
    exact (requestedVersion?_eq_some_iff sound).2
      ⟨e, serving, application, selected, behind, named.symm, best, serves⟩

/-- The place of the version selected, by itself. -/
theorem map_requestedVersion?_eq_some_iff (sound : r.Sound) :
    (r.requestedVersion? host uri requested).map (·.1) = some place ↔
      r.servingName? host = some place.host ∧ r.Leads uri requested place := by
  rw [Option.map_eq_some_iff]
  constructor
  · rintro ⟨⟨_, version⟩, found, rfl⟩
    obtain ⟨serves, leads, _⟩ := (requestedVersion?_eq_some_iff_leads sound).1 found
    exact ⟨serves, leads⟩
  · rintro ⟨serves, leads⟩
    obtain ⟨version, there⟩ := Option.ne_none_iff_exists'.1 leads.deployed
    exact ⟨(place, version),
      (requestedVersion?_eq_some_iff_leads sound).2 ⟨serves, leads, there⟩, rfl⟩

/-! ## Routers with one frame -/

/-- Two routers that differ in what calls about versions change, if in anything. -/
structure OneFrame (r next : Router H A W) : Prop where
  sound : r.Sound
  nextSound : next.Sound
  same : next.frame = r.frame

namespace OneFrame

variable (one : r.OneFrame next)
include one

theorem servingName?_eq (host : String) : next.servingName? host = r.servingName? host := by
  have names : next.realName? = r.realName? := by
    rw [← realName?_frame one.nextSound.wellFormed.ordered, one.same,
      realName?_frame one.sound.wellFormed.ordered]
  have default : next.frame.defaultHost = r.frame.defaultHost := by rw [one.same]
  have default : next.defaultHost = r.defaultHost := default
  rw [Router.servingName?_eq one.sound.wellFormed, Router.servingName?_eq one.nextSound.wellFormed,
    askedName?, askedName?, names, default]

theorem host?_eq (name : String) :
    (next.host? name).map Host.frame = (r.host? name).map Host.frame := by
  rw [← host?_frame one.nextSound.wellFormed.ordered, one.same,
    host?_frame one.sound.wellFormed.ordered]

theorem version?_eq (place : Coordinates) :
    (next.version? place).map Version.frame = (r.version? place).map Version.frame := by
  rw [← version?_frame one.nextSound.wellFormed, one.same, version?_frame one.sound.wellFormed]

/-- A request selects the version at the same place. -/
theorem place_requestedVersion? (host uri : String) (requested : Option String) :
    (next.requestedVersion? host uri requested).map (·.1) =
      (r.requestedVersion? host uri requested).map (·.1) := by
  have deployed (place : Coordinates) : next.version? place = none ↔ r.version? place = none := by
    rw [← Option.map_eq_none_iff, one.version?_eq, Option.map_eq_none_iff]
  have leads (place : Coordinates) :
      next.Leads uri requested place ↔ r.Leads uri requested place :=
    ⟨.congr fun other => (deployed other).symm, .congr deployed⟩
  apply Option.ext
  intro place
  rw [map_requestedVersion?_eq_some_iff one.nextSound, map_requestedVersion?_eq_some_iff one.sound,
    one.servingName?_eq, leads]

/-- The version that a request selects changes as the version at its place does. -/
theorem requestedVersion?_eq {f : Coordinates → Version A W → Version A W}
    (versions : ∀ place, next.version? place = (r.version? place).map (f place))
    (host uri : String) (requested : Option String) :
    next.requestedVersion? host uri requested =
      (r.requestedVersion? host uri requested).map fun chosen =>
        (chosen.1, f chosen.1 chosen.2) := by
  have places := one.place_requestedVersion? host uri requested
  cases found : r.requestedVersion? host uri requested with
  | none =>
    rw [found, Option.map_none, Option.map_eq_none_iff] at places
    exact places
  | some chosen =>
    obtain ⟨place, version⟩ := chosen
    rw [found, Option.map_some] at places
    obtain ⟨⟨spot, version'⟩, found', here⟩ := Option.map_eq_some_iff.1 places
    obtain rfl : place = spot := here.symm
    have changed := versions place
    rw [one.sound.version?_of_requestedVersion? found,
      one.nextSound.version?_of_requestedVersion? found', Option.map_some, Option.some_inj]
      at changed
    rw [found', Option.map_some, changed]

/-- The application that is mounted at a place has the same frame, on a host with the
same target. -/
theorem mounted_eq {serving serving' : Host H A W} {application application' : Application A W}
    (known : r.host? place.host = some serving) (known' : next.host? place.host = some serving')
    (mounted : serving.mounts.find? place.path = some application)
    (mounted' : serving'.mounts.find? place.path = some application') :
    serving'.target = serving.target ∧ application'.frame = application.frame := by
  have hosts := one.host?_eq place.host
  rw [known, known', Option.map_some, Option.map_some, Option.some_inj] at hosts
  have target : serving'.frame.target = serving.frame.target := by rw [hosts]
  have found : serving'.frame.mounts.find? place.path = serving.frame.mounts.find? place.path := by
    rw [hosts]
  have read := (one.sound.wellFormed.of_host? known).find?_frame place.path
  have read' := (one.nextSound.wellFormed.of_host? known').find?_frame place.path
  have applications := (read'.symm.trans found).trans read
  rw [mounted, mounted', Option.map_some, Option.map_some, Option.some_inj] at applications
  exact ⟨target, applications⟩

theorem target_servingHost? (host : String) :
    (next.servingHost? host).map (·.target) = (r.servingHost? host).map (·.target) := by
  rw [one.nextSound.servingHost?_eq, one.sound.servingHost?_eq, one.servingName?_eq]
  cases r.servingName? host with
  | none => rfl
  | some name =>
    have hosts := congrArg (Option.map (·.target)) (one.host?_eq name)
    rw [Option.map_map, Option.map_map] at hosts
    exact hosts

/-- **A result tells of the frame and of the version selected.** It names the same host,
application and versions, and is the same where the version is. -/
theorem value_resolve (host uri : String) (requested : Option String) :
    (next.resolve host uri requested).value.Alike (r.resolve host uri requested).value ∧
      (next.requestedVersion? host uri requested = r.requestedVersion? host uri requested →
        (next.resolve host uri requested).value = (r.resolve host uri requested).value) := by
  have places := one.place_requestedVersion? host uri requested
  cases found : r.requestedVersion? host uri requested with
  | none =>
    rw [found, Option.map_none, Option.map_eq_none_iff] at places
    have same : (next.resolve host uri requested).value = (r.resolve host uri requested).value := by
      obtain ⟨serving, value⟩ := exists_resolve_eq_of_none one.sound found
      obtain ⟨serving', value'⟩ := exists_resolve_eq_of_none one.nextSound places
      have hosts := (host_resolve next host uri requested).trans (one.target_servingHost? host)
      rw [← host_resolve r host uri requested, value, value'] at hosts
      have hosts : serving' = serving := hosts
      rw [value, value', hosts]
    rw [same]
    exact ⟨⟨rfl, rfl, rfl, rfl⟩, fun _ => rfl⟩
  | some chosen =>
    obtain ⟨place, version⟩ := chosen
    rw [found, Option.map_some] at places
    obtain ⟨⟨spot, version'⟩, found', here⟩ := Option.map_eq_some_iff.1 places
    obtain rfl : place = spot := here.symm
    have versions := one.version?_eq place
    rw [one.sound.version?_of_requestedVersion? found,
      one.nextSound.version?_of_requestedVersion? found', Option.map_some, Option.map_some,
      Option.some_inj] at versions
    obtain ⟨serving, application, known, mounted, value⟩ := one.sound.resolve_reached found
    obtain ⟨serving', application', known', mounted', value'⟩ :=
      one.nextSound.resolve_reached found'
    obtain ⟨target, applications⟩ := one.mounted_eq known known' mounted mounted'
    dsimp only at value value'
    rw [Resolution.upTo_of_frame applications versions, target] at value'
    rw [value, value', found']
    refine ⟨?_, fun same => ?_⟩
    · have alike := Resolution.alike_reached
        (.upTo serving.target place.path application version : Resolution H A W) uri
      exact (alike version').trans (alike version).symm
    · obtain ⟨_, rfl⟩ := Prod.mk.inj (Option.some.inj same)
      rfl

end OneFrame

variable [DecidableEq H] [DecidableEq A] [DecidableEq W]

/-- **A call about a version touches that version only.** The frame stays: the host
table with its aliases, the mounts and their labels, the default host, the index and all
that is deployed, down to what a version was deployed with. The version at the place is
revised, and every other one stays as it is. Every request selects the version at the
same place as before. The result is the same if that is another place, or none, and in
any case it has the host, the application, the versions and the slash count it had. -/
theorem Reachable.calls_touch_one_version (reachable : r.Reachable) {call : Call H A W}
    (about : call.revises? = some place) :
    (r.after call).frame = r.frame ∧
      (∀ other, (r.after call).version? other =
        (r.version? other).map fun v => if other = place then v.revised call else v) ∧
      ∀ host uri requested,
        (r.after call).requestedVersion? host uri requested =
          (r.requestedVersion? host uri requested).map (fun chosen =>
            (chosen.1, if chosen.1 = place then chosen.2.revised call else chosen.2)) ∧
        ((r.requestedVersion? host uri requested).map (·.1) ≠ some place →
          ((r.after call).resolve host uri requested).value =
            (r.resolve host uri requested).value) ∧
        ((r.after call).resolve host uri requested).value.Alike
          (r.resolve host uri requested).value := by
  have sound := reachable.sound
  have one : r.OneFrame (r.after call) :=
    ⟨sound, (edits_after sound call).sound sound, frame_after sound about⟩
  have versions (other : Coordinates) : (r.after call).version? other =
      (r.version? other).map fun v => if other = place then v.revised call else v := by
    rw [version?_revises sound about]
    simp only [Version.revisedAt, about, Option.some_inj, eq_comm (a := place)]
  refine ⟨one.same, versions, fun host uri requested => ?_⟩
  have requests := one.requestedVersion?_eq versions host uri requested
  obtain ⟨alike, same⟩ := one.value_resolve host uri requested
  refine ⟨requests, fun elsewhere => same ?_, alike⟩
  rw [requests]
  cases found : r.requestedVersion? host uri requested with
  | none => rfl
  | some chosen =>
    have away : chosen.1 ≠ place := by
      intro here
      rw [found, Option.map_some, here] at elsewhere
      exact elsewhere rfl
    rw [Option.map_some, if_neg away]

/-- One target at two labels of a path and at the same path of another host. -/
def sharedApplication : Router Nat Nat Nat :=
  runAll empty [.addHost "h" ["w"] 0, .deploy "h" 0 { path := "/a", target := 1 },
    .deploy "h" 0 { path := "/a", version := "2", target := 1 },
    .deploy "k" 5 { path := "/a", target := 1 }]

/-- The second version gets a default handler. Requests by the alias select it with the
handler; those for the first version or the other host notice nothing. -/
theorem calls_touch_one_version_sharedApplication :
    let next := sharedApplication.after (.addHandler ⟨"H", "/a", "2"⟩ "/" 7 {})
    next.frame = sharedApplication.frame ∧
      (next.requestedVersion? "w" "/a/x" none).bind (·.2.handlers.fallback) = some ⟨7, {}⟩ ∧
      (next.resolve "w" "/a/x" none).value.Alike
        (sharedApplication.resolve "w" "/a/x" none).value ∧
      (next.resolve "w" "/a/x" (some "")).value =
        (sharedApplication.resolve "w" "/a/x" (some "")).value ∧
      (next.resolve "k" "/a/x" none).value = (sharedApplication.resolve "k" "/a/x" none).value := by
  intro next
  have reachable : sharedApplication.Reachable := ⟨_, rfl⟩
  have about : Call.revises? (.addHandler ⟨"H", "/a", "2"⟩ "/" 7 {} : Call Nat Nat Nat) =
      some ⟨"h", "/a", "2"⟩ := by decide +kernel
  obtain ⟨frame, _, requests⟩ := reachable.calls_touch_one_version about
  obtain ⟨selected, _, alike⟩ := requests "w" "/a/x" none
  obtain ⟨_, first, _⟩ := requests "w" "/a/x" (some "")
  obtain ⟨_, other, _⟩ := requests "k" "/a/x" none
  refine ⟨frame, ?_, alike, first (by decide +kernel), other (by decide +kernel)⟩
  rw [selected]
  decide +kernel

end Router

end VirtualHosting
