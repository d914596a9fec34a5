/-
# Proofs.Disputes — patterns that two handlers of an application list

Validation looks at one pattern at a time and accepts a descriptor in which two
handlers of one application list the same pattern. Deploying it succeeds; the pattern
goes to the handler that lists it first, and every other handler that lists it is
reported as an error. Nothing else of an accepted descriptor is ever reported so. An
accepted descriptor is therefore deployed without errors, and every pattern leads to the
handler that lists it, exactly if no pattern is disputed.

* `ApplicationSpec.owner?`, `ApplicationSpec.disputed`: who lists a pattern first, and
  who comes too late;
* `log_deploy`, `errorEvents_addHost`: what the calls report that deploying consists of;
* `find?_of_owner`, `errorEvents_gather_deploymentOf`: the handlers of one application;
* `errorEvents_deployApplications`, `errorEvents_deployHosts`: what is reported of a list
  of applications, and of hosts;
* `build_reports_disputes`: the router of an accepted descriptor and its report.
-/
import VirtualHosting.Proofs.Build
import VirtualHosting.Proofs.Gathering

namespace VirtualHosting

set_option autoImplicit false

/-! ## Patterns and handlers -/

namespace ApplicationSpec

variable {app : ApplicationSpec} {pattern : String} {i j : Nat} {handler first : HandlerSpec}

/-- The first handler that lists a pattern. -/
def owner? (app : ApplicationSpec) (pattern : String) : Option Nat :=
  app.handlers.findIdx? fun handler => pattern ∈ handler.patterns

/-- The patterns that a handler lists and an earlier handler has listed, with that handler. -/
def disputed (app : ApplicationSpec) : List (Nat × String) :=
  app.handlers.zipIdx.flatMap fun (handler, i) =>
    (handler.patterns.filter fun pattern => app.owner? pattern ≠ some i).map (i, ·)

/-- No two handlers list the same pattern. -/
def Undisputed (app : ApplicationSpec) : Prop :=
  ∀ (i j : Nat) (handler other : HandlerSpec) (pattern : String),
    app.handlers[i]? = some handler → app.handlers[j]? = some other →
    pattern ∈ handler.patterns → pattern ∈ other.patterns → i = j

theorem exists_of_owner (owner : app.owner? pattern = some j) :
    ∃ first, app.handlers[j]? = some first ∧ pattern ∈ first.patterns := by
  obtain ⟨inside, lists, _⟩ := List.findIdx?_eq_some_iff_getElem.1 owner
  exact ⟨app.handlers[j], List.getElem?_eq_getElem inside, of_decide_eq_true lists⟩

theorem exists_owner (there : app.handlers[i]? = some handler)
    (listed : pattern ∈ handler.patterns) : ∃ j, app.owner? pattern = some j := by
  apply Option.isSome_iff_exists.1
  rw [owner?, List.findIdx?_isSome, List.any_eq_true]
  exact ⟨handler, List.mem_of_getElem? there, decide_eq_true listed⟩

theorem mem_disputed_iff : (i, pattern) ∈ app.disputed ↔
    ∃ handler, app.handlers[i]? = some handler ∧ pattern ∈ handler.patterns ∧
      app.owner? pattern ≠ some i := by
  simp only [disputed, List.mem_flatMap, List.mem_map, List.mem_filter, Prod.exists,
    List.mem_zipIdx_iff_getElem?, decide_eq_true_eq, Prod.mk.injEq]
  constructor
  · rintro ⟨handler, _, there, _, ⟨listed, late⟩, rfl, rfl⟩
    exact ⟨handler, there, listed, late⟩
  · rintro ⟨handler, there, listed, late⟩
    exact ⟨handler, i, there, pattern, ⟨listed, late⟩, rfl, rfl⟩

theorem disputed_eq_nil_iff : app.disputed = [] ↔ app.Undisputed := by
  rw [List.eq_nil_iff_forall_not_mem, Prod.forall]
  constructor
  · intro none_late i j handler other pattern there there' listed listed'
    have first : app.owner? pattern = some i := by
      by_contra late
      exact none_late i pattern (mem_disputed_iff.2 ⟨handler, there, listed, late⟩)
    have first' : app.owner? pattern = some j := by
      by_contra late
      exact none_late j pattern (mem_disputed_iff.2 ⟨other, there', listed', late⟩)
    exact Option.some.inj (first.symm.trans first')
  · intro undisputed i pattern late
    obtain ⟨handler, there, listed, late⟩ := mem_disputed_iff.1 late
    obtain ⟨j, owner⟩ := exists_owner there listed
    obtain ⟨first, there', listed'⟩ := exists_of_owner owner
    rw [undisputed i j handler first pattern there there' listed listed'] at late
    exact late owner

end ApplicationSpec

/-! ## What is reported of a call -/

namespace Router

variable {H A W : Type} {r : Router H A W} {host name : String}

theorem log_deployOn [DecidableEq A] (r : Router H A W) (host : String) (mounts : Mounts A W)
    (deployment : Deployment A W) (handlers : HandlerSet W) :
    (r.deployOn host mounts deployment handlers).log =
      [deploymentEvent ⟨host, deployment.path, deployment.version⟩
        (r.deployOn host mounts deployment handlers).value.1] := by
  rw [value_deployOn]
  unfold deployOn Deployment.publication
  dsimp only
  generalize publish mounts deployment.path deployment.version
    { path := deployment.path, target := deployment.target,
      settings := deployment.settings, handlers } = answer
  obtain ⟨outcome, published⟩ := answer
  cases outcome <;> rfl

/-- On a host that is there, what becomes of the handlers is reported, and then what
becomes of the version. -/
theorem log_deploy [DecidableEq H] [DecidableEq A] [DecidableEq W] {owner : Host H A W}
    (known : r.host? (normalizeHostName host) = some owner) {deployment : Deployment A W}
    {handlers : HandlerSet W}
    (gathered : (gather deployment.path .empty deployment.handlers).value = .ok handlers)
    {target : H} {outcome : Registration}
    (answer : (r.deploy host target deployment).value.1 = .ok outcome) :
    (r.deploy host target deployment).log =
      (gather deployment.path .empty deployment.handlers).log ++
        [deploymentEvent ⟨normalizeHostName host, deployment.path, deployment.version⟩
          outcome] := by
  rw [value_deploy, gathered, host?_eq_some_iff.1 known] at answer
  have same := Except.ok.inj answer
  rw [deploy, Logged.log_bind, gathered, host?_eq_some_iff.1 known]
  dsimp only
  rw [Logged.log_bind, Logged.log_pure, List.append_nil, log_deployOn, same]

variable [DecidableEq A] [DecidableEq W]

/-- Free names become aliases without an error. -/
theorem errorEvents_addAliases (sound : r.Sound) {card : Host H A W}
    (owned : r.listing host = some (.real card)) {names : List String}
    (distinct : (names.map normalizeHostName).Nodup)
    (free : ∀ name ∈ names.map normalizeHostName, r.listing name = none) :
    errorEvents (r.addAliases host names).log = [] := by
  induction names generalizing r card with
  | nil => rfl
  | cons name rest silent =>
    rw [List.map_cons, List.nodup_cons] at distinct
    rw [List.map_cons, List.forall_mem_cons] at free
    obtain ⟨found, known, _⟩ := listing_eq_real_iff.1 owned
    have ordered := sound.wellFormed.ordered
    have grown := (mayEdit_insertAlias known name).edits.sound sound
    have stillOwned := (listing_insertAlias ordered owned free.1 host).trans (if_pos rfl)
    have stillFree := listing_insertAlias_of_free ordered owned free.1 distinct.1 free.2
    have first : errorEvents (r.insertAlias host (normalizeHostName name)).log = [] := by
      unfold insertAlias
      cases inserted : r.entries.insert? (normalizeHostName name) (.aliasOf host) with
      | some entries => rfl
      | none =>
        have taken := ordered.insert?_eq_none_iff.1 inserted
        exact absurd taken (ordered.find?_eq_none_iff.1 (listing_eq_none_iff.1 free.1))
    rw [addAliases, Logged.log_bind, errorEvents_append, first, List.nil_append,
      silent grown stillOwned distinct.2 stillFree]

/-- A host is registered without an error if its name and its aliases are free. -/
theorem errorEvents_addHost [DecidableEq H] (sound : r.Sound) {aliases : List String}
    (distinct : ((name :: aliases).map normalizeHostName).Nodup)
    (free : ∀ key ∈ (name :: aliases).map normalizeHostName, r.listing key = none) (target : H) :
    errorEvents (r.addHost name aliases target).log = [] := by
  rw [List.map_cons, List.nodup_cons] at distinct
  rw [List.map_cons, List.forall_mem_cons] at free
  have unknown := listing_eq_none_iff.1 free.1
  obtain ⟨entries, inserted, _⟩ := addHost_free sound.wellFormed.ordered unknown aliases target
  obtain ⟨grown, owned, stillFree⟩ := listing_enterHost sound inserted distinct.1 free.2
  have silent := errorEvents_addAliases grown owned distinct.2 stillFree
  rw [addHost, unknown]
  dsimp only
  rw [inserted, Logged.log_bind, errorEvents_append, Logged.log_bind, errorEvents_append]
  dsimp only
  rw [silent]
  rfl

end Router

namespace Descriptor

open Router

variable {names : String → ResourceKind} {host : HostSpec} {app : ApplicationSpec}
  {r : LabelledRouter} {position : List Nat} {pattern : String} {p : Pattern}

/-! ## The handlers of one application -/

/-- The handler of a descriptor from the place it stands at. -/
def handlerOf (position : List Nat) (handler : HandlerSpec) : Handler Label :=
  ⟨⟨position, handler.name⟩, ⟨handler.template, handler.resourceOnly⟩⟩

theorem findSome?_mappingsOf (read : Pattern.parse pattern = .ok p) (position : List Nat)
    (handler : HandlerSpec) :
    (mappingsOf position handler).findSome? (·.offers p) =
      if pattern ∈ handler.patterns then some (handlerOf position handler) else none := by
  rw [mappingsOf, List.findSome?_map]
  generalize handler.patterns = patterns
  induction patterns with
  | nil => rfl
  | cons other rest ih =>
    have offer : HandlerMapping.offers
        { pattern := other, target := ⟨position, handler.name⟩,
          flags := ⟨handler.template, handler.resourceOnly⟩ } p =
        if other = pattern then some (handlerOf position handler) else none :=
      HandlerMapping.offers_eq read
    rw [List.findSome?_cons, ih, Function.comp_apply, offer]
    by_cases here : other = pattern
    · simp [here]
    · simp [here, Ne.symm here]

/-- Of all that the handlers offer for a pattern the first is that of its owner. -/
theorem findSome?_offers (read : Pattern.parse pattern = .ok p) (position : List Nat)
    (handlers : List HandlerSpec) (k : Nat) :
    (((handlers.zipIdx k).map fun (handler, i) =>
        mappingsOf (position ++ [i]) handler).flatten).findSome? (·.offers p) =
      (handlers.findIdx? fun handler => pattern ∈ handler.patterns).bind fun j =>
        handlers[j]?.map (handlerOf (position ++ [k + j])) := by
  induction handlers generalizing k with
  | nil => rfl
  | cons handler rest ih =>
    rw [List.zipIdx_cons, List.map_cons, List.flatten_cons, List.findSome?_append, ih,
      findSome?_mappingsOf read, List.findIdx?_cons]
    by_cases listed : pattern ∈ handler.patterns
    · simp [listed]
    · simp only [listed, if_false, Option.none_or, decide_false, Bool.false_eq_true]
      cases rest.findIdx? fun handler => decide (pattern ∈ handler.patterns) with
      | none => rfl
      | some j => simp [Nat.add_assoc, Nat.add_comm 1 j]

variable {handlers : HandlerSet Label} {i j : Nat} {handler first : HandlerSpec}

/-- A pattern leads to the handler that lists it first. -/
theorem find?_of_owner
    (gathered : (gather app.path .empty (deploymentOf names position app).handlers).value =
      .ok handlers)
    (read : Pattern.parse pattern = .ok p) (owner : app.owner? pattern = some j)
    (there : app.handlers[j]? = some first) :
    handlers.find? p = some (handlerOf (position ++ [j]) first) := by
  have owner : app.handlers.findIdx? (fun handler => pattern ∈ handler.patterns) = some j := owner
  have offered := findSome?_offers read position app.handlers 0
  rw [owner, Option.bind_some, there, Nat.zero_add] at offered
  rw [find?_gather HandlerSet.wellFormed_empty gathered, HandlerSet.find?_empty, Option.none_or]
  exact offered

/-- A handler is reported for a pattern exactly if another owns it. -/
theorem overruled_mapping
    (gathered : (gather app.path .empty (deploymentOf names position app).handlers).value =
      .ok handlers)
    (readable : Readable app) (there : app.handlers[i]? = some handler)
    (listed : pattern ∈ handler.patterns) :
    HandlerMapping.overruled
        { pattern, target := ⟨position ++ [i], handler.name⟩,
          flags := ⟨handler.template, handler.resourceOnly⟩ } handlers =
      decide (app.owner? pattern ≠ some i) := by
  obtain ⟨p, read⟩ := readable handler (List.mem_of_getElem? there) pattern listed
  obtain ⟨j, owner⟩ := ApplicationSpec.exists_owner there listed
  obtain ⟨first, there', _⟩ := ApplicationSpec.exists_of_owner owner
  have compared := HandlerMapping.overruled_eq
    ⟨pattern, ⟨position ++ [i], handler.name⟩, ⟨handler.template, handler.resourceOnly⟩⟩ read
    handlers
  rw [compared, find?_of_owner gathered read owner there', owner]
  by_cases same : j = i
  · subst same
    obtain rfl := Option.some.inj (there.symm.trans there')
    simp [handlerOf]
  · simp [handlerOf, same]

/-- What is reported of the handlers of an application. -/
def reportsOf (app : ApplicationSpec) : List Event :=
  app.disputed.map fun (_, pattern) => .patternDropped pattern app.path

/-- Of the handlers of an application the disputed patterns are reported. -/
theorem errorEvents_gather_deploymentOf
    (gathered : (gather app.path .empty (deploymentOf names position app).handlers).value =
      .ok handlers)
    (readable : Readable app) :
    errorEvents (gather app.path .empty (deploymentOf names position app).handlers).log =
      reportsOf app := by
  have mappings : (deploymentOf names position app).handlers =
      app.handlers.zipIdx.flatMap fun (handler, i) => mappingsOf (position ++ [i]) handler :=
    rfl
  rw [errorEvents_gather HandlerSet.wellFormed_empty gathered, mappings, List.filter_flatMap,
    List.map_flatMap, reportsOf, ApplicationSpec.disputed, List.map_flatMap]
  refine List.flatMap_congr fun (handler, i) indexed => ?_
  have there := List.mem_zipIdx_iff_getElem?.1 indexed
  dsimp only
  rw [mappingsOf, List.filter_map, List.map_map, List.map_map]
  refine congrArg (List.map _) (List.filter_congr fun pattern listed => ?_)
  exact overruled_mapping gathered readable there listed

/-! ## What is reported of a descriptor -/

theorem errorEvents_pauseAt (r : LabelledRouter) (place : Coordinates) :
    errorEvents (pauseAt r place).log = [] := by
  unfold pauseAt
  split
  · rfl
  · rename_i version found
    rw [Logged.log_bind, errorEvents_append, pause, found]
    simp only [if_true]
    rfl

/-- Of an application at a free place its disputed patterns are reported, and nothing else. -/
theorem errorEvents_deployApplication (sound : r.Sound) {owner : Host Label Label Label}
    (known : r.host? (normalizeHostName host.name) = some owner)
    (free : r.version? (placeOf host app) = none) (readable : Readable app)
    (names : String → ResourceKind) (target : Label) (position : List Nat) :
    errorEvents (deployApplication names host target position r app).log = reportsOf app := by
  obtain ⟨handlers, gathered⟩ := readable.exists_gather names position
  obtain ⟨deployed, answer, _⟩ :=
    Router.deploy_free sound known (deploymentOf names position app) free gathered target
  have log := log_deploy known gathered (congrArg Prod.fst answer)
  have reported : errorEvents (r.deploy host.name target (deploymentOf names position app)).log =
      reportsOf app := by
    rw [log, errorEvents_append]
    exact (List.append_nil _).trans (errorEvents_gather_deploymentOf gathered readable)
  rw [deployApplication, Logged.log_bind, errorEvents_append, reported, answer]
  dsimp only
  split
  · rw [errorEvents_pauseAt, List.append_nil]
  · exact List.append_nil _

theorem errorEvents_deployApplications {n : Nat} {apps : List ApplicationSpec} (sound : r.Sound)
    {card : Host Label Label Label}
    (known : r.listing (normalizeHostName host.name) = some (.real card))
    (distinct : (apps.map versionKey).Nodup)
    (free : ∀ app ∈ apps, r.version? (placeOf host app) = none)
    (readable : ∀ app ∈ apps, Readable app) (names : String → ResourceKind) (target : Label) :
    errorEvents (deployApplications names host target n r apps).log =
      apps.flatMap reportsOf := by
  induction apps generalizing n r with
  | nil => rfl
  | cons app rest reported =>
    rw [List.map_cons, List.nodup_cons] at distinct
    rw [List.forall_mem_cons] at free readable
    obtain ⟨owner, there, _⟩ := listing_eq_real_iff.1 known
    have first := errorEvents_deployApplication sound there free.1 readable.1 names target
      (target.position ++ [n])
    obtain ⟨middle, version, answer, placed, _⟩ :=
      exists_deployApplication sound there free.1 readable.1 names target (target.position ++ [n])
    have others := reported (n := n + 1) placed.sound (placed.listing ▸ known) distinct.2
      (version?_of_places placed distinct.1 free.2) readable.2
    rw [deployApplications, Logged.log_bind, errorEvents_append, first, answer,
      List.flatMap_cons]
    exact congrArg (reportsOf app ++ ·) others

theorem errorEvents_deployHosts {n : Nat} {hosts : List HostSpec} (sound : r.Sound)
    (distinct : (hosts.flatMap storedNamesOf).Nodup)
    (free : ∀ name ∈ hosts.flatMap storedNamesOf, r.listing name = none)
    (versions : ∀ host ∈ hosts, (host.applications.map versionKey).Nodup)
    (readable : ∀ host ∈ hosts, ∀ app ∈ host.applications, Readable app)
    (names : String → ResourceKind) :
    errorEvents (deployHosts names n r hosts).log =
      hosts.flatMap fun host => host.applications.flatMap reportsOf := by
  induction hosts generalizing n r with
  | nil => rfl
  | cons host rest reported =>
    rw [List.flatMap_cons, List.nodup_append] at distinct
    obtain ⟨own, later, between⟩ := distinct
    rw [List.flatMap_cons] at free
    rw [List.forall_mem_cons] at versions readable
    have apart : ∀ name ∈ storedNamesOf host, name ∉ rest.flatMap storedNamesOf :=
      fun name mem again => between name mem name again rfl
    have vacant : ∀ key ∈ storedNamesOf host, r.listing key = none :=
      fun key mem => free key (List.mem_append_left _ mem)
    have registering := errorEvents_addHost sound own vacant (⟨[n], host.name⟩ : Label)
    obtain ⟨renamed, listed⟩ := listing_addHost sound own vacant (⟨[n], host.name⟩ : Label)
    have there := (listed (normalizeHostName host.name)).trans (if_pos rfl)
    have empty : ∀ app ∈ host.applications,
        (r.addHost host.name host.aliases ⟨[n], host.name⟩).value.2.version?
          (placeOf host app) = none :=
      fun app _ => version?_of_renames renamed (vacant _ List.mem_cons_self) app
    have filling := errorEvents_deployApplications (n := 0) renamed.sound there versions.1
      empty readable.1 names ⟨[n], host.name⟩
    obtain ⟨middle, filled, deploys⟩ := exists_deployApplications (n := 0) renamed.sound there
      versions.1 empty readable.1 names ⟨[n], host.name⟩
    have stillFree := deploys.listing_of_free listed apart
      fun name mem => free name (List.mem_append_right _ mem)
    have others := reported (n := n + 1) deploys.sound later stillFree versions.2 readable.2
    rw [deployHosts, Logged.log_bind, errorEvents_append, registering, List.nil_append]
    dsimp only
    rw [Logged.log_bind, errorEvents_append, filling, filled, List.flatMap_cons]
    exact congrArg _ others

theorem errorEvents_build (names : String → ResourceKind) {d : Descriptor}
    (built : (build names d).value = .ok r) :
    errorEvents (build names d).log =
      errorEvents (deployHosts names 0
        ({ defaultHost := d.defaultHost.map normalizeHostName } : LabelledRouter) d.hosts).log := by
  have start : ((Router.empty : LabelledRouter).setDefaultHost d.defaultHost).value =
      { defaultHost := d.defaultHost.map normalizeHostName } := rfl
  have announced : errorEvents ((Router.empty : LabelledRouter).setDefaultHost d.defaultHost).log =
      [] := rfl
  rw [value_build] at built
  rw [build, Logged.log_bind, errorEvents_append, announced, start, List.nil_append,
    Logged.log_bind, errorEvents_append, built]
  exact List.append_nil _

/-! ## Where a pattern leads -/

/-- The target of a pattern where an application is deployed. -/
def mappedTo? (r : LabelledRouter) (host : HostSpec) (app : ApplicationSpec) (pattern : String) :
    Option Label :=
  match (r.handler ⟨host.name, app.path, app.version⟩ pattern).value with
  | .ok (some (_, handler)) => some handler.target
  | _ => none

theorem mappedTo?_of_version {version : Version Label Label}
    (there : r.version? (placeOf host app) = some version) (read : Pattern.parse pattern = .ok p) :
    mappedTo? r host app pattern = (version.handlers.find? p).map (·.target) := by
  have found : r.find ⟨host.name, app.path, app.version⟩ = .ok version := find_eq_ok_iff.2 there
  unfold mappedTo? handler
  rw [Logged.value_bind, value_readPattern, read]
  dsimp only
  rw [found]
  dsimp only [Logged.value_pure]
  cases version.handlers.find? p <;> rfl

/-- Every pattern of a descriptor leads to each of the handlers that list it. -/
def MapsOwn (d : Descriptor) (r : LabelledRouter) : Prop :=
  ∀ (n m i : Nat) (host : HostSpec) (app : ApplicationSpec) (handler : HandlerSpec),
    d.hosts[n]? = some host → host.applications[m]? = some app →
    app.handlers[i]? = some handler → ∀ pattern ∈ handler.patterns,
      mappedTo? r host app pattern = some ⟨[n, m, i], handler.name⟩

/-- Every pattern of a descriptor leads to the first handler that lists it. -/
def MapsFirst (d : Descriptor) (r : LabelledRouter) : Prop :=
  ∀ (n m j : Nat) (host : HostSpec) (app : ApplicationSpec) (first : HandlerSpec)
    (pattern : String), d.hosts[n]? = some host → host.applications[m]? = some app →
    app.handlers[j]? = some first → app.owner? pattern = some j →
      mappedTo? r host app pattern = some ⟨[n, m, j], first.name⟩

/-- No two handlers of one application list the same pattern. -/
def Undisputed (d : Descriptor) : Prop :=
  ∀ host ∈ d.hosts, ∀ app ∈ host.applications, app.Undisputed

variable {d : Descriptor}

theorem MapsFirst.mapsOwn_iff (maps : d.MapsFirst r) : d.MapsOwn r ↔ d.Undisputed := by
  constructor
  · intro own host hostMem app appMem i j handler other pattern there there' listed listed'
    obtain ⟨n, at_n⟩ := List.getElem?_of_mem hostMem
    obtain ⟨m, at_m⟩ := List.getElem?_of_mem appMem
    have leads := own n m i host app handler at_n at_m there pattern listed
    have leads' := own n m j host app other at_n at_m there' pattern listed'
    have same := Option.some.inj (leads.symm.trans leads')
    simpa using congrArg Label.position same
  · intro undisputed n m i host app handler at_n at_m there pattern listed
    obtain ⟨j, owner⟩ := ApplicationSpec.exists_owner there listed
    obtain ⟨first, there', listed'⟩ := ApplicationSpec.exists_of_owner owner
    obtain rfl : i = j :=
      undisputed host (List.mem_of_getElem? at_n) app (List.mem_of_getElem? at_m) i j handler first
        pattern there there' listed listed'
    exact maps n m i host app handler pattern at_n at_m there owner

theorem reports_eq_nil_iff :
    (d.hosts.flatMap fun host => host.applications.flatMap reportsOf) = [] ↔ d.Undisputed := by
  simp only [List.flatMap_eq_nil_iff, reportsOf, List.map_eq_nil_iff,
    ApplicationSpec.disputed_eq_nil_iff, Undisputed]

theorem Registers.mapsFirst {start : LabelledRouter}
    (registers : Registers names 0 d.hosts start r)
    (deployable : d.Deployable) : d.MapsFirst r := by
  intro n m j host app first pattern at_n at_m there owner
  obtain ⟨version, deployed, configured⟩ := registers.deployed n host m app at_n at_m
  rw [Nat.zero_add] at configured
  obtain ⟨_, there', listed⟩ := ApplicationSpec.exists_of_owner owner
  obtain rfl := Option.some.inj (there.symm.trans there')
  obtain ⟨p, read⟩ := deployable.patterns host (List.mem_of_getElem? at_n) app
    (List.mem_of_getElem? at_m) first (List.mem_of_getElem? there) pattern listed
  rw [mappedTo?_of_version deployed read, find?_of_owner configured.handlers read owner there]
  rfl

/-- **Disputed patterns are all that is reported of an accepted descriptor.** It is deployed
without an error, and with every pattern leading to each handler that lists it, exactly if
no two handlers of one application list the same. -/
theorem build_reports_disputes (accepted : validate d = []) (names : String → ResourceKind) :
    ∃ r, (build names d).value = .ok r ∧ d.MapsFirst r ∧
      errorEvents (build names d).log =
        (d.hosts.flatMap fun host => host.applications.flatMap reportsOf) ∧
      (errorEvents (build names d).log = [] ↔ d.Undisputed) ∧ (d.MapsOwn r ↔ d.Undisputed) := by
  have deployable := deployable_of_validate accepted
  have start := (Router.Edit.setDefault (Router.empty : LabelledRouter) d.defaultHost).sound
    Router.sound_empty
  have bare (name : String) : ({ defaultHost := d.defaultHost.map normalizeHostName } :
      LabelledRouter).listing name = none := listing_eq_none_iff.2 (Table.find?_empty name)
  obtain ⟨r, registered, registers⟩ := exists_deployHosts start deployable.names
    (fun name _ => bare name) deployable.versions deployable.patterns names
  have built := (value_build names d).trans registered
  have reported := (errorEvents_build names built).trans
    (errorEvents_deployHosts start deployable.names (fun name _ => bare name) deployable.versions
      deployable.patterns names)
  have maps := registers.mapsFirst deployable
  refine ⟨r, built, maps, reported, ?_, maps.mapsOwn_iff⟩
  rw [reported]
  exact reports_eq_nil_iff

/-- Two handlers of one application want the items. -/
def claimedTwice : Descriptor where
  hosts :=
    [{ name := "localhost"
       applications :=
        [{ path := "/shop"
           handlers :=
            [{ name := "catalog", patterns := ["/items", "/"] },
              { name := "archive", patterns := ["/old", "/items"] }] }] }]

theorem build_reports_disputes_claimedTwice :
    validate claimedTwice = [] ∧ ∃ r, (build (fun _ => .missing) claimedTwice).value = .ok r ∧
      claimedTwice.MapsFirst r ∧
      errorEvents (build (fun _ => .missing) claimedTwice).log =
        [.patternDropped "/items" "/shop"] := by
  have accepted : validate claimedTwice = [] := by decide +kernel
  obtain ⟨r, built, maps, reported, _⟩ := build_reports_disputes accepted fun _ => .missing
  exact ⟨accepted, r, built, maps, reported⟩

/-- What is accepted can still be refused: the archive does not get the items it lists. -/
theorem accepted_pattern_dropped :
    validate claimedTwice = [] ∧ ∃ r, (build (fun _ => .missing) claimedTwice).value = .ok r ∧
      errorEvents (build (fun _ => .missing) claimedTwice).log ≠ [] ∧
      ¬ claimedTwice.MapsOwn r := by
  have accepted : validate claimedTwice = [] := by decide +kernel
  have reported : errorEvents (build (fun _ => .missing) claimedTwice).log ≠ [] := by
    decide +kernel
  have leads : (build (fun _ => .missing) claimedTwice).value.toOption.map
      (mappedTo? · { name := "localhost" } { path := "/shop" } "/items") =
        some (some ⟨[0, 0, 0], "catalog"⟩) := by decide +kernel
  cases built : (build (fun _ => .missing) claimedTwice).value with
  | error refusal =>
    rw [built] at leads
    cases leads
  | ok r =>
    refine ⟨accepted, r, rfl, reported, fun own => ?_⟩
    have expected := own 0 0 1 _ _ _ rfl rfl rfl "/items" (by decide)
    rw [built] at leads
    cases expected.symm.trans (Option.some.inj leads)

end Descriptor

end VirtualHosting
