/-
# Proofs.Build — an accepted descriptor is deployed as written

Deploying stops at the first refusal, and a name or version that is taken already
would be passed over in silence. Validation rules out both: in an accepted
descriptor every name and every place is free when its turn comes. So each host
and each application adds what it says, whatever comes later leaves it alone, and
by induction over the lists the router that is built holds the descriptor and
nothing else.

* `exists_deployApplication`: one application at a place that is free;
* `exists_deployApplications`, `exists_deployHosts`: a list of them, and of hosts;
* `exists_build_of_validate`: the router of an accepted descriptor.
-/
import VirtualHosting.Descriptor.Deployment
import VirtualHosting.Proofs.Additions
import VirtualHosting.Proofs.Refinement
import VirtualHosting.Proofs.Request
import VirtualHosting.Proofs.Validation

namespace VirtualHosting

set_option autoImplicit false

/-- A version is the one that an application of a descriptor describes, from the
place it stands at there. -/
structure Version.Configured (version : Version Label Label) (names : String → ResourceKind)
    (position : List Nat) (app : ApplicationSpec) : Prop where
  path : version.path = app.path
  target : version.target = ⟨position, applicationLabel app.path app.version⟩
  welcomeFiles : version.settings.welcomeFiles = app.welcomeFiles
  rootRedirect : version.settings.rootRedirect = app.rootRedirect
  directoryRedirect : version.settings.directoryRedirect = app.directoryRedirect
  resources : version.settings.resources = app.documentRoot.map (DocumentRoot.probe names)
  handlers : (Router.gather app.path .empty
    (Descriptor.deploymentOf names position app).handlers).value = .ok version.handlers
  paused : version.paused = app.paused

namespace Descriptor

variable {names : String → ResourceKind} {host : HostSpec} {app : ApplicationSpec}
  {r : LabelledRouter}

/-- Where an application of a host is deployed. -/
def placeOf (host : HostSpec) (app : ApplicationSpec) : Coordinates :=
  ⟨normalizeHostName host.name, app.path, app.version⟩

/-- The places of the applications of some hosts. -/
def placesOf (hosts : List HostSpec) : List Coordinates :=
  hosts.flatMap fun host => host.applications.map (placeOf host)

theorem placeOf_ne {app other : ApplicationSpec} (apart : versionKey app ≠ versionKey other) :
    placeOf host app ≠ placeOf host other := by
  intro same
  have fields := Coordinates.mk.inj same
  exact apart (Prod.ext fields.2.1 fields.2.2)

theorem host_of_mem_placesOf {hosts : List HostSpec} {place : Coordinates}
    (mem : place ∈ placesOf hosts) : place.host ∈ hosts.flatMap storedNamesOf := by
  obtain ⟨host, listed, mem⟩ := List.mem_flatMap.1 mem
  obtain ⟨app, _, rfl⟩ := List.mem_map.1 mem
  exact List.mem_flatMap.2 ⟨host, listed, List.mem_cons_self⟩

/-! ## One application -/

/-- All patterns of an application can be read. -/
def Readable (app : ApplicationSpec) : Prop :=
  ∀ handler ∈ app.handlers, ∀ pattern ∈ handler.patterns, ∃ p, Pattern.parse pattern = .ok p

theorem Readable.exists_gather (readable : Readable app) (names : String → ResourceKind)
    (position : List Nat) : ∃ handlers, (Router.gather app.path .empty
      (deploymentOf names position app).handlers).value = .ok handlers := by
  have read := Router.value_gather_eq app.path (deploymentOf names position app).handlers
    (.empty : HandlerSet Label)
  have sane : Ledger.firstFault (deploymentOf names position app).handlers = none := by
    refine List.findSome?_eq_none_iff.2 fun mapping mem => ?_
    obtain ⟨mappings, listed, mem⟩ := List.mem_flatten.1 mem
    obtain ⟨⟨handler, i⟩, indexed, rfl⟩ := List.mem_map.1 listed
    obtain ⟨pattern, written, rfl⟩ := List.mem_map.1 mem
    obtain ⟨p, parsed⟩ :=
      readable handler (List.fst_mem_of_mem_zipIdx indexed) pattern written
    simp only [parsed]
  rw [sane] at read
  exact read

/-- An application is deployed at its place if that is free. -/
theorem exists_deployApplication (sound : r.Sound) {owner : Host Label Label Label}
    (known : r.host? (normalizeHostName host.name) = some owner)
    (free : r.version? (placeOf host app) = none) (readable : Readable app)
    (names : String → ResourceKind) (target : Label) (position : List Nat) :
    ∃ next version, (deployApplication names host target position r app).value = .ok next ∧
      r.Places next (placeOf host app) version ∧ version.Configured names position app := by
  obtain ⟨handlers, gathered⟩ := readable.exists_gather names position
  obtain ⟨deployed, answer, placed, _⟩ :=
    Router.deploy_free sound known (deploymentOf names position app) free gathered target
  have configured (paused : Bool) (same : paused = app.paused) :
      ({ (deploymentOf names position app).publication handlers with paused } :
        Version Label Label).Configured names position app :=
    ⟨rfl, rfl, rfl, rfl, rfl, rfl, gathered, same⟩
  unfold deployApplication
  rw [Logged.value_bind, answer]
  dsimp only
  split
  · rename_i pausing
    have there : deployed.find ⟨host.name, app.path, app.version⟩ =
        .ok ((deploymentOf names position app).publication handlers) :=
      Router.find_eq_ok_iff.2 ((placed.version? _).trans (if_pos rfl))
    obtain ⟨next, paused, stopped⟩ := Router.pause_deployed placed.sound there
    refine ⟨next, _, ?_, placed.trans stopped, configured true pausing.symm⟩
    simp only [pauseAt, there, Logged.value_bind, paused, Logged.value_pure]
  · rename_i running
    have same := (Bool.eq_false_iff.2 running).symm
    exact ⟨deployed, _, rfl, placed, configured false same⟩

/-! ## The applications of a host -/

/-- `next` is `r` with some applications of a host, the first of them the `n`th. -/
structure Deploys (names : String → ResourceKind) (host : HostSpec) (position : List Nat) (n : Nat)
    (apps : List ApplicationSpec) (r next : LabelledRouter) : Prop where
  sound : next.Sound
  listing : next.listing = r.listing
  defaultHost : next.defaultHost = r.defaultHost
  deployed : ∀ m app, apps[m]? = some app → ∃ version,
    next.version? (placeOf host app) = some version ∧
      version.Configured names (position ++ [n + m]) app
  elsewhere : ∀ place, place ∉ apps.map (placeOf host) → next.version? place = r.version? place

theorem Deploys.cons {position : List Nat} {n : Nat} {rest : List ApplicationSpec}
    {middle next : LabelledRouter} {version : Version Label Label}
    (placed : r.Places middle (placeOf host app) version)
    (configured : version.Configured names (position ++ [n]) app)
    (apart : versionKey app ∉ rest.map versionKey)
    (others : Deploys names host position (n + 1) rest middle next) :
    Deploys names host position n (app :: rest) r next where
  sound := others.sound
  listing := others.listing.trans placed.listing
  defaultHost := others.defaultHost.trans placed.defaultHost
  deployed m other found := by
    cases m with
    | zero =>
      obtain rfl := Option.some.inj found
      have kept : placeOf host app ∉ rest.map (placeOf host) := by
        intro again
        obtain ⟨other, mem, same⟩ := List.mem_map.1 again
        refine placeOf_ne ?_ same
        exact fun equal => apart (equal ▸ List.mem_map_of_mem mem)
      refine ⟨version, ?_, configured⟩
      rw [others.elsewhere _ kept, placed.version?, if_pos rfl]
    | succ m =>
      obtain ⟨version, there, configured⟩ := others.deployed m other found
      rw [Nat.add_right_comm] at configured
      exact ⟨version, there, configured⟩
  elsewhere place away := by
    rw [List.map_cons, List.mem_cons, not_or] at away
    rw [others.elsewhere place away.2, placed.version?, if_neg away.1]

/-- Other keys are other places, so one deployment takes nothing from the rest. -/
theorem version?_of_places {rest : List ApplicationSpec} {middle : LabelledRouter}
    {version : Version Label Label} (placed : r.Places middle (placeOf host app) version)
    (apart : versionKey app ∉ rest.map versionKey)
    (free : ∀ other ∈ rest, r.version? (placeOf host other) = none) :
    ∀ other ∈ rest, middle.version? (placeOf host other) = none := by
  intro other mem
  have different : versionKey other ≠ versionKey app :=
    fun same => apart (same ▸ List.mem_map_of_mem mem)
  rw [placed.version?, if_neg (placeOf_ne different), free other mem]

/-- Applications are deployed one after the other if their places are free and no
two are the same. -/
theorem exists_deployApplications {n : Nat} {apps : List ApplicationSpec} (sound : r.Sound)
    {card : Host Label Label Label}
    (known : r.listing (normalizeHostName host.name) = some (.real card))
    (distinct : (apps.map versionKey).Nodup)
    (free : ∀ app ∈ apps, r.version? (placeOf host app) = none)
    (readable : ∀ app ∈ apps, Readable app) (names : String → ResourceKind) (target : Label) :
    ∃ next, (deployApplications names host target n r apps).value = .ok next ∧
      Deploys names host target.position n apps r next := by
  induction apps generalizing n r with
  | nil =>
    exact ⟨r, rfl, sound, rfl, rfl, fun _ _ missing => (nomatch missing), fun _ _ => rfl⟩
  | cons app rest deployed =>
    rw [List.map_cons, List.nodup_cons] at distinct
    rw [List.forall_mem_cons] at free readable
    obtain ⟨owner, there, _⟩ := Router.listing_eq_real_iff.1 known
    obtain ⟨middle, version, answer, placed, configured⟩ :=
      exists_deployApplication sound there free.1 readable.1 names target (target.position ++ [n])
    obtain ⟨next, last, others⟩ := deployed (n := n + 1) placed.sound
      (placed.listing ▸ known) distinct.2 (version?_of_places placed distinct.1 free.2) readable.2
    refine ⟨next, ?_, .cons placed configured distinct.1 others⟩
    rw [deployApplications, Logged.value_bind, answer]
    exact last

/-! ## The hosts -/

/-- `next` is `r` with some hosts and all that is on them, the first of them the
`n`th. -/
structure Registers (names : String → ResourceKind) (n : Nat) (hosts : List HostSpec)
    (r next : LabelledRouter) : Prop where
  sound : next.Sound
  defaultHost : next.defaultHost = r.defaultHost
  real : ∀ k host, hosts[k]? = some host → next.listing (normalizeHostName host.name) =
    some (.real { target := ⟨[n + k], host.name⟩, aliases := host.aliases.map normalizeHostName })
  aliases : ∀ host ∈ hosts, ∀ name ∈ host.aliases,
    next.listing (normalizeHostName name) = some (.aliasOf (normalizeHostName host.name))
  otherNames : ∀ name, name ∉ hosts.flatMap storedNamesOf → next.listing name = r.listing name
  deployed : ∀ k host m app, hosts[k]? = some host → host.applications[m]? = some app →
    ∃ version, next.version? (placeOf host app) = some version ∧
      version.Configured names [n + k, m] app
  otherPlaces : ∀ place, place ∉ placesOf hosts → next.version? place = r.version? place

theorem Registers.cons {n : Nat} {rest : List HostSpec} {registered middle next : LabelledRouter}
    (renamed : r.Renames registered)
    (listed : ∀ key, registered.listing key =
      if key = normalizeHostName host.name
      then some (.real
        { target := ⟨[n], host.name⟩, aliases := host.aliases.map normalizeHostName })
      else if key ∈ host.aliases.map normalizeHostName
        then some (.aliasOf (normalizeHostName host.name)) else r.listing key)
    (own : (storedNamesOf host).Nodup)
    (apart : ∀ name ∈ storedNamesOf host, name ∉ rest.flatMap storedNamesOf)
    (filled : Deploys names host [n] 0 host.applications registered middle)
    (others : Registers names (n + 1) rest middle next) :
    Registers names n (host :: rest) r next := by
  -- Whatever comes later has other names: it reaches neither the entries of this
  -- host nor the places on it.
  have stays (name : String) (mem : name ∈ storedNamesOf host) :
      next.listing name = registered.listing name := by
    rw [others.otherNames name (apart name mem), filled.listing]
  have remains (place : Coordinates) (here : place.host = normalizeHostName host.name) :
      next.version? place = middle.version? place := by
    refine others.otherPlaces place fun mem => ?_
    exact apart _ List.mem_cons_self (here ▸ host_of_mem_placesOf mem)
  refine ⟨others.sound, ?_, fun k found at_k => ?_, fun found mem name given => ?_,
    fun name away => ?_, fun k found m app at_k at_m => ?_, fun place away => ?_⟩
  · rw [others.defaultHost, filled.defaultHost, renamed.defaultHost]
  · cases k with
    | zero =>
      obtain rfl := Option.some.inj at_k
      rw [stays _ List.mem_cons_self, listed, if_pos rfl]
      rfl
    | succ k =>
      have there := others.real k found at_k
      rw [Nat.add_right_comm] at there
      exact there
  · rcases List.mem_cons.1 mem with rfl | mem
    · have listedName : normalizeHostName name ∈ found.aliases.map normalizeHostName :=
        List.mem_map_of_mem given
      have different : normalizeHostName name ≠ normalizeHostName found.name :=
        fun same => (List.nodup_cons.1 own).1 (same ▸ listedName)
      rw [stays _ (List.mem_cons_of_mem _ listedName), listed, if_neg different, if_pos listedName]
    · exact others.aliases found mem name given
  · rw [List.flatMap_cons, List.mem_append, not_or] at away
    obtain ⟨foreign, later⟩ := away
    obtain ⟨different, unlisted⟩ := not_or.1 (fun either => foreign (List.mem_cons.2 either))
    rw [others.otherNames name later, filled.listing, listed, if_neg different, if_neg unlisted]
  · cases k with
    | zero =>
      obtain rfl := Option.some.inj at_k
      obtain ⟨version, there, configured⟩ := filled.deployed m app at_m
      refine ⟨version, (remains _ rfl).trans there, ?_⟩
      rw [Nat.zero_add] at configured
      exact configured
    | succ k =>
      obtain ⟨version, there, configured⟩ := others.deployed k found m app at_k at_m
      rw [Nat.add_right_comm] at configured
      exact ⟨version, there, configured⟩
  · rw [placesOf, List.flatMap_cons, List.mem_append, not_or] at away
    rw [others.otherPlaces place away.2, filled.elsewhere place away.1, renamed.version?]

/-- Nothing is deployed on a host that has just been registered. -/
theorem version?_of_renames {registered : LabelledRouter} (renamed : r.Renames registered)
    (unknown : r.listing (normalizeHostName host.name) = none) (app : ApplicationSpec) :
    registered.version? (placeOf host app) = none := by
  have nameless := Router.host?_of_find?_eq_none (Router.listing_eq_none_iff.1 unknown)
  rw [renamed.version?, Router.version?]
  exact congrArg (Option.bind · _) nameless

/-- Other hosts have other names, so registering and filling one takes none of theirs. -/
theorem Deploys.listing_of_free {n : Nat} {rest : List HostSpec}
    {registered middle : LabelledRouter} {card : Host Label Label Label}
    (filled : Deploys names host [n] 0 host.applications registered middle)
    (listed : ∀ key, registered.listing key =
      if key = normalizeHostName host.name then some (.real card)
      else if key ∈ host.aliases.map normalizeHostName
        then some (.aliasOf (normalizeHostName host.name)) else r.listing key)
    (apart : ∀ name ∈ storedNamesOf host, name ∉ rest.flatMap storedNamesOf)
    (free : ∀ name ∈ rest.flatMap storedNamesOf, r.listing name = none) :
    ∀ name ∈ rest.flatMap storedNamesOf, middle.listing name = none := by
  intro name mem
  have foreign : name ∉ storedNamesOf host := fun own => apart name own mem
  obtain ⟨different, unlisted⟩ := not_or.1 (fun either => foreign (List.mem_cons.2 either))
  rw [filled.listing, listed, if_neg different, if_neg unlisted, free name mem]

/-- Hosts are registered and filled one after the other if their names are free
and none occurs twice. -/
theorem exists_deployHosts {n : Nat} {hosts : List HostSpec} (sound : r.Sound)
    (distinct : (hosts.flatMap storedNamesOf).Nodup)
    (free : ∀ name ∈ hosts.flatMap storedNamesOf, r.listing name = none)
    (versions : ∀ host ∈ hosts, (host.applications.map versionKey).Nodup)
    (readable : ∀ host ∈ hosts, ∀ app ∈ host.applications, Readable app)
    (names : String → ResourceKind) :
    ∃ next, (deployHosts names n r hosts).value = .ok next ∧ Registers names n hosts r next := by
  induction hosts generalizing n r with
  | nil =>
    exact ⟨r, rfl, sound, rfl, fun _ _ missing => (nomatch missing),
      fun _ missing => (nomatch missing), fun _ _ => rfl,
      fun _ _ _ _ missing => (nomatch missing), fun _ _ => rfl⟩
  | cons host rest registers =>
    rw [List.flatMap_cons, List.nodup_append] at distinct
    obtain ⟨own, later, between⟩ := distinct
    rw [List.flatMap_cons] at free
    rw [List.forall_mem_cons] at versions readable
    have apart : ∀ name ∈ storedNamesOf host, name ∉ rest.flatMap storedNamesOf :=
      fun name mem again => between name mem name again rfl
    obtain ⟨renamed, listed⟩ := Router.listing_addHost sound own
      (fun key mem => free key (List.mem_append_left _ mem)) (⟨[n], host.name⟩ : Label)
    have vacant := free _ (List.mem_append_left _ List.mem_cons_self)
    obtain ⟨middle, filled, deploys⟩ := exists_deployApplications (n := 0) renamed.sound
      ((listed _).trans (if_pos rfl)) versions.1
      (fun app _ => version?_of_renames renamed vacant app) readable.1 names ⟨[n], host.name⟩
    have stillFree := deploys.listing_of_free listed apart
      fun name mem => free name (List.mem_append_right _ mem)
    obtain ⟨next, last, others⟩ :=
      registers (n := n + 1) deploys.sound later stillFree versions.2 readable.2
    refine ⟨next, ?_, .cons renamed listed own apart deploys others⟩
    rw [deployHosts, Logged.value_bind]
    dsimp only
    rw [Logged.value_bind, filled]
    exact last

theorem nodup_placesOf {hosts : List HostSpec} (distinct : (hosts.flatMap storedNamesOf).Nodup)
    (versions : ∀ host ∈ hosts, (host.applications.map versionKey).Nodup) :
    (placesOf hosts).Nodup := by
  refine List.nodup_flatMap.2 ⟨fun host mem => ?_, ?_⟩
  · refine List.Nodup.of_map (fun place : Coordinates => (place.path, place.version)) ?_
    rw [List.map_map]
    exact versions host mem
  · refine (List.nodup_flatMap.1 distinct).2.imp fun {host other} disjoint place mem mem' => ?_
    obtain ⟨app, _, rfl⟩ := List.mem_map.1 mem
    obtain ⟨app', _, same⟩ := List.mem_map.1 mem'
    have hosts := (Coordinates.mk.inj same).1
    exact disjoint List.mem_cons_self (hosts ▸ List.mem_cons_self)

/-! ## The router -/

/-- A router holds a descriptor and nothing else. -/
structure Realizes (names : String → ResourceKind) (d : Descriptor) (r : LabelledRouter) :
    Prop where
  defaultHost : r.defaultHost = d.defaultHost.map normalizeHostName
  /-- Every host and every alias has one entry, and there are no others. -/
  table : r.entries.names.Perm d.storedNames
  hosts : ∀ n host, d.hosts[n]? = some host → ∃ found,
    r.entries.find? (normalizeHostName host.name) = some (.real found) ∧
      found.target = ⟨[n], host.name⟩ ∧ found.aliases = host.aliases.map normalizeHostName
  aliases : ∀ host ∈ d.hosts, ∀ name ∈ host.aliases,
    r.entries.find? (normalizeHostName name) = some (.aliasOf (normalizeHostName host.name))
  /-- Every application has one version, and there are no others. -/
  places : (r.deployments.map (·.1)).Perm
    (d.applications.map fun (host, app) => placeOf host app)
  versions : ∀ n host m app, d.hosts[n]? = some host → host.applications[m]? = some app →
    ∃ version, (placeOf host app, version) ∈ r.deployments ∧
      version.Configured names [n, m] app

theorem placesOf_hosts (d : Descriptor) :
    placesOf d.hosts = d.applications.map fun (host, app) => placeOf host app := by
  rw [placesOf, applications, List.map_flatMap]
  refine congrArg (List.flatMap · d.hosts) (funext fun host => ?_)
  rw [List.map_map]
  rfl

/-- Registering on a router of no hosts leaves an entry for every name, and no others. -/
theorem Registers.names_perm {n : Nat} {hosts : List HostSpec} {start next : LabelledRouter}
    (registers : Registers names n hosts start next) (bare : start.entries = .empty)
    (distinct : (hosts.flatMap storedNamesOf).Nodup) :
    next.entries.names.Perm (hosts.flatMap storedNamesOf) := by
  have ordered := registers.sound.wellFormed.ordered
  refine (List.perm_ext_iff_of_nodup ordered.nodup distinct).2 fun name => ?_
  rw [← not_iff_not, ← ordered.find?_eq_none_iff, ← Router.listing_eq_none_iff]
  constructor
  · intro missing mem
    obtain ⟨host, hostMem, mem⟩ := List.mem_flatMap.1 mem
    rcases List.mem_cons.1 mem with rfl | mem
    · obtain ⟨k, at_k⟩ := List.getElem?_of_mem hostMem
      cases missing.symm.trans (registers.real k host at_k)
    · obtain ⟨written, given, rfl⟩ := List.mem_map.1 mem
      cases missing.symm.trans (registers.aliases host hostMem written given)
  · intro away
    rw [registers.otherNames name away, Router.listing_eq_none_iff, bare, Table.find?_empty]

/-- Registering on a router of no hosts deploys every application, and no others. -/
theorem Registers.places_perm {n : Nat} {hosts : List HostSpec} {start next : LabelledRouter}
    (registers : Registers names n hosts start next) (bare : start.entries = .empty)
    (distinct : (placesOf hosts).Nodup) :
    (next.deployments.map (·.1)).Perm (placesOf hosts) := by
  have ordered := registers.sound.wellFormed
  refine (List.perm_ext_iff_of_nodup (Router.nodup_places ordered) distinct).2 fun place => ?_
  rw [List.mem_map]
  constructor
  · rintro ⟨⟨place, version⟩, listed, rfl⟩
    by_contra away
    have there := (Router.mem_deployments_iff ordered).1 listed
    have nameless : start.entries.find? place.host = none := by rw [bare, Table.find?_empty]
    have nothing : start.version? place = none :=
      congrArg (Option.bind · _) (Router.host?_of_find?_eq_none nameless)
    cases nothing.symm.trans ((registers.otherPlaces place away).symm.trans there)
  · intro mem
    obtain ⟨host, hostMem, mem⟩ := List.mem_flatMap.1 mem
    obtain ⟨app, appMem, rfl⟩ := List.mem_map.1 mem
    obtain ⟨k, at_k⟩ := List.getElem?_of_mem hostMem
    obtain ⟨m, at_m⟩ := List.getElem?_of_mem appMem
    obtain ⟨version, there, _⟩ := registers.deployed k host m app at_k at_m
    exact ⟨⟨placeOf host app, version⟩, (Router.mem_deployments_iff ordered).2 there, rfl⟩

/-- On a router of no hosts, registering the hosts of a descriptor realizes it. -/
theorem Registers.realizes {d : Descriptor} {start next : LabelledRouter}
    (registers : Registers names 0 d.hosts start next) (deployable : d.Deployable)
    (bare : start.entries = .empty)
    (default : start.defaultHost = d.defaultHost.map normalizeHostName) :
    Realizes names d next := by
  have distinct := nodup_placesOf deployable.names deployable.versions
  refine
    { defaultHost := registers.defaultHost.trans default
      table := registers.names_perm bare deployable.names
      hosts := fun n host at_n => ?_
      aliases := fun host mem name given =>
        Router.listing_eq_aliasOf_iff.1 (registers.aliases host mem name given)
      places := placesOf_hosts d ▸ registers.places_perm bare distinct
      versions := fun n host m app at_n at_m => ?_ }
  · obtain ⟨found, known, card⟩ := Router.listing_eq_real_iff.1 (registers.real n host at_n)
    have fields := Host.mk.inj card
    rw [Nat.zero_add] at fields
    exact ⟨found, Router.host?_eq_some_iff.1 known, fields.1, fields.2.2⟩
  · obtain ⟨version, there, configured⟩ := registers.deployed n host m app at_n at_m
    rw [Nat.zero_add] at configured
    exact ⟨version, (Router.mem_deployments_iff registers.sound.wellFormed).2 there, configured⟩

/-- Every request is served by some host if the default host is in the table. -/
theorem Realizes.host_resolve_ne_none {d : Descriptor} (realizes : Realizes names d r)
    (deployable : d.Deployable) (sound : r.Sound) (standIn : d.defaultHost ≠ none)
    (asked uri : String) (requested : Option String) :
    (r.resolve asked uri requested).value.host ≠ none := by
  obtain ⟨name, named⟩ := Option.ne_none_iff_exists'.1 standIn
  have default : r.defaultHost = some (normalizeHostName name) := by
    rw [realizes.defaultHost, named, Option.map_some]
  have there : normalizeHostName name ∈ r.entries.names :=
    realizes.table.mem_iff.2 (deployable.defaultHost name named)
  obtain ⟨entry, found⟩ :=
    Option.isSome_iff_exists.1 (sound.wellFormed.ordered.isSome_find?_iff.2 there)
  obtain ⟨serving, serves⟩ := sound.exists_servingHost? default found asked
  rw [Router.host_resolve, serves]
  exact Option.some_ne_none _

theorem value_build (names : String → ResourceKind) (d : Descriptor) :
    (build names d).value =
      (deployHosts names 0 ({ defaultHost := d.defaultHost.map normalizeHostName } : LabelledRouter)
        d.hosts).value := by
  have start : ((Router.empty : LabelledRouter).setDefaultHost d.defaultHost).value =
      { defaultHost := d.defaultHost.map normalizeHostName } := rfl
  rw [build, Logged.value_bind, start, Logged.value_bind]
  cases (deployHosts names 0 _ d.hosts).value <;> rfl

/-- **An accepted descriptor is deployed as written**: nothing is refused, the
router holds the descriptor and nothing else, and with a default host every
request finds a host. -/
theorem exists_build_of_validate {d : Descriptor} (accepted : validate d = [])
    (names : String → ResourceKind) :
    ∃ r, (build names d).value = .ok r ∧ Realizes names d r ∧
      (d.defaultHost ≠ none → ∀ asked uri requested,
        (r.resolve asked uri requested).value.host ≠ none) := by
  have deployable := deployable_of_validate accepted
  have start := (Router.Edit.setDefault (Router.empty : LabelledRouter) d.defaultHost).sound
    Router.sound_empty
  obtain ⟨r, built, registers⟩ := exists_deployHosts start deployable.names
    (fun name _ => Router.listing_eq_none_iff.2 (Table.find?_empty name)) deployable.versions
    deployable.patterns names
  have realizes := registers.realizes deployable rfl rfl
  refine ⟨r, ?_, realizes, realizes.host_resolve_ne_none deployable registers.sound⟩
  exact (value_build names d).trans built

/-- Two hosts, one with an alias and with an old and a paused new version of one
application. -/
def shop : Descriptor where
  defaultHost := some "127.0.0.1"
  hosts :=
    [{ name := "localhost"
       aliases := ["127.0.0.1"]
       applications :=
        [{ path := "/shop"
           welcomeFiles := ["index.html"]
           handlers := [{ name := "catalog", patterns := ["/items/*", "/items"] }] },
          { path := "/shop", version := "2", paused := true }] },
      { name := "*.example.com", applications := [{ documentRoot := some "/srv" }] }]

theorem exists_build_of_validate_shop :
    validate shop = [] ∧ ∃ r, (build (fun _ => .missing) shop).value = .ok r ∧
      Realizes (fun _ => .missing) shop r ∧
      ∀ asked uri requested, (r.resolve asked uri requested).value.host ≠ none := by
  have accepted : validate shop = [] := by decide +kernel
  obtain ⟨r, built, realizes, served⟩ := exists_build_of_validate accepted fun _ => .missing
  exact ⟨accepted, r, built, realizes, served (Option.some_ne_none _)⟩

end Descriptor

end VirtualHosting
