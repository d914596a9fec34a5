/-
# Proofs.Additions — adding what is free

A call that adds something does all it is asked for when the names and the place
it needs are free. What it adds is said with two maps: `Router.listing`, the host
table without what is mounted, and `Router.version?`. Each addition changes one of
the two where it adds and leaves the other as it is.

* `listing_addHost`: a host and its aliases;
* `deploy_free`, `pause_deployed`: a version, and its pause.
-/
import VirtualHosting.Proofs.Reachable
import VirtualHosting.Proofs.Versions

namespace VirtualHosting

set_option autoImplicit false

variable {H A W : Type}

/-- An entry without what is mounted on it. -/
def HostEntry.unmounted : HostEntry H A W → HostEntry H A W :=
  modify fun host => { host with mounts := .empty }

namespace Router

variable {r next : Router H A W} {name host : String}

/-! ## The host table without mounts -/

/-- What a name stands for, mounts aside. -/
def listing (r : Router H A W) (name : String) : Option (HostEntry H A W) :=
  (r.entries.find? name).map HostEntry.unmounted

theorem listing_eq_none_iff : r.listing name = none ↔ r.entries.find? name = none :=
  Option.map_eq_none_iff

theorem listing_eq_aliasOf_iff {owner : String} :
    r.listing name = some (.aliasOf owner) ↔ r.entries.find? name = some (.aliasOf owner) := by
  rw [listing, Option.map_eq_some_iff]
  constructor
  · rintro ⟨_ | _, there, same⟩
    · cases same
    · exact same ▸ there
  · intro there
    exact ⟨_, there, rfl⟩

theorem listing_eq_real_iff {card : Host H A W} :
    r.listing name = some (.real card) ↔
      ∃ found, r.host? name = some found ∧ { found with mounts := .empty } = card := by
  simp only [listing, Option.map_eq_some_iff, host?_eq_some_iff]
  constructor
  · rintro ⟨found | _, there, same⟩
    · exact ⟨found, there, HostEntry.real.inj same⟩
    · cases same
  · rintro ⟨found, there, rfl⟩
    exact ⟨_, there, rfl⟩

theorem listing_modifyMounts (ordered : r.entries.Ordered) (name : String)
    (f : Mounts A W → Mounts A W) : (r.modifyMounts name f).listing = r.listing := by
  funext key
  rw [listing, listing, modifyMounts, find?_modifyHost ordered]
  split
  · cases r.entries.find? key with
    | none => rfl
    | some entry => cases entry <;> rfl
  · rfl

theorem listing_insert (ordered : r.entries.Ordered) {entry : HostEntry H A W}
    {entries : Table (HostEntry H A W)} (inserted : r.entries.insert? name entry = some entries)
    (key : String) :
    ({ r with entries } : Router H A W).listing key =
      if key = name then some entry.unmounted else r.listing key := by
  rw [listing, listing, ordered.find?_insert? inserted]
  split <;> rfl

theorem listing_modifyAliases (ordered : r.entries.Ordered) {card : Host H A W}
    (owned : r.listing host = some (.real card)) (f : List String → List String)
    (key : String) :
    (r.modifyHost host fun h => { h with aliases := f h.aliases }).listing key =
      if key = host then some (.real { card with aliases := f card.aliases })
      else r.listing key := by
  obtain ⟨found, known, rfl⟩ := listing_eq_real_iff.1 owned
  rw [host?_eq_some_iff] at known
  rw [listing, listing, find?_modifyHost ordered]
  split
  · rename_i here
    rw [here, known]
    rfl
  · rfl

/-! ## Hosts and aliases -/

theorem version?_insertAlias (ordered : r.entries.Ordered) (host name : String)
    (place : Coordinates) :
    (r.insertAlias host name).value.2.version? place = r.version? place := by
  rw [value_insertAlias]
  split
  · rename_i entries inserted
    have nextOrdered : ({ r with entries } : Router H A W).entries.Ordered :=
      ordered.insert? inserted
    have listed := version?_modifyAliases nextOrdered host (· ++ [name]) place
    exact listed.trans (version?_insert ordered inserted nofun place)
  · split <;> rfl

theorem defaultHost_insertAlias (r : Router H A W) (host name : String) :
    (r.insertAlias host name).value.2.defaultHost = r.defaultHost := by
  rw [value_insertAlias]
  split
  · rfl
  · split <;> rfl

/-- A free name becomes an alias, and comes last on the list of its host. -/
theorem listing_insertAlias (ordered : r.entries.Ordered) {card : Host H A W}
    (owned : r.listing host = some (.real card)) (free : r.listing name = none) (key : String) :
    (r.insertAlias host name).value.2.listing key =
      if key = host then some (.real { card with aliases := card.aliases ++ [name] })
      else if key = name then some (.aliasOf host) else r.listing key := by
  have fresh := ordered.find?_eq_none_iff.1 (listing_eq_none_iff.1 free)
  have other : host ≠ name := by
    rintro rfl
    cases free.symm.trans owned
  rw [value_insertAlias]
  cases inserted : r.entries.insert? name (.aliasOf host) with
  | none => exact absurd (ordered.insert?_eq_none_iff.1 inserted) fresh
  | some entries =>
    have nextOrdered : ({ r with entries } : Router H A W).entries.Ordered :=
      ordered.insert? inserted
    have entered := listing_insert ordered inserted
    have kept : ({ r with entries } : Router H A W).listing host = some (.real card) := by
      rw [entered, if_neg other, owned]
    refine (listing_modifyAliases nextOrdered kept (· ++ [name]) key).trans ?_
    rw [entered]
    rfl

/-- An alias takes no other free name. -/
theorem listing_insertAlias_of_free (ordered : r.entries.Ordered) {card : Host H A W}
    (owned : r.listing host = some (.real card)) (free : r.listing name = none)
    {others : List String} (apart : name ∉ others)
    (stillFree : ∀ other ∈ others, r.listing other = none) :
    ∀ other ∈ others, (r.insertAlias host name).value.2.listing other = none := by
  intro other mem
  have elsewhere : other ≠ name := fun same => apart (same ▸ mem)
  have away : other ≠ host := by
    rintro rfl
    cases (stillFree _ mem).symm.trans owned
  rw [listing_insertAlias ordered owned free, if_neg away, if_neg elsewhere, stillFree other mem]

variable [DecidableEq A] [DecidableEq W]

/-- `next` has the versions of `r` under more names. -/
structure Renames (r next : Router H A W) : Prop where
  sound : next.Sound
  defaultHost : next.defaultHost = r.defaultHost
  version? : ∀ place, next.version? place = r.version? place

theorem renames_addAliases (sound : r.Sound) {owner : Host H A W}
    (owned : r.host? host = some owner) (names : List String) :
    Renames r (r.addAliases host names).value := by
  induction names generalizing r owner with
  | nil => exact ⟨sound, rfl, fun _ => rfl⟩
  | cons name rest kept =>
    have grown := (mayEdit_insertAlias owned name).edits.sound sound
    obtain ⟨owner', owned'⟩ := host?_insertAlias sound owned (normalizeHostName name)
    obtain ⟨last, default, versions⟩ := kept grown owned'
    have ordered := sound.wellFormed.ordered
    rw [value_addAliases_cons]
    exact ⟨last, default.trans (defaultHost_insertAlias r host _),
      fun place => (versions place).trans (version?_insertAlias ordered host _ place)⟩

/-- Registering a host brings names, whatever comes of it. -/
theorem renames_addHost [DecidableEq H] (sound : r.Sound) (name : String) (aliases : List String)
    (target : H) : Renames r (r.addHost name aliases target).value.2 := by
  have ordered := sound.wellFormed.ordered
  cases there : r.entries.find? (normalizeHostName name) with
  | none =>
    obtain ⟨entries, inserted, answer⟩ := addHost_free ordered there aliases target
    have entered : Edit r { r with entries } := .enterHost inserted
    have bare (place : Coordinates) := version?_insert ordered inserted
      (fun host same => by rw [← HostEntry.real.inj same]; rfl) place
    obtain ⟨last, default, versions⟩ :=
      renames_addAliases (entered.sound sound) (host?_of_insert? ordered inserted) aliases
    rw [answer]
    exact ⟨last, default, fun place => (versions place).trans (bare place)⟩
  | some entry =>
    rw [value_addHost, there]
    cases entry with
    | aliasOf host => exact ⟨sound, rfl, fun _ => rfl⟩
    | real host =>
      dsimp only
      split
      · exact renames_addAliases sound (host?_eq_some_iff.2 there) aliases
      · exact ⟨sound, rfl, fun _ => rfl⟩

/-- Free names all become aliases, in their order. -/
theorem listing_addAliases (sound : r.Sound) {card : Host H A W}
    (owned : r.listing host = some (.real card)) {names : List String}
    (distinct : (names.map normalizeHostName).Nodup)
    (free : ∀ name ∈ names.map normalizeHostName, r.listing name = none) (key : String) :
    (r.addAliases host names).value.listing key =
      if key = host
      then some (.real { card with aliases := card.aliases ++ names.map normalizeHostName })
      else if key ∈ names.map normalizeHostName then some (.aliasOf host) else r.listing key := by
  induction names generalizing r card with
  | nil =>
    simp only [addAliases_nil, Logged.value_pure, List.map_nil, List.append_nil, List.not_mem_nil,
      if_false]
    split
    · rename_i here
      rw [here, owned]
    · rfl
  | cons name rest listed =>
    rw [List.map_cons, List.nodup_cons] at distinct
    rw [List.map_cons, List.forall_mem_cons] at free
    obtain ⟨found, known, _⟩ := listing_eq_real_iff.1 owned
    have grown := (mayEdit_insertAlias known name).edits.sound sound
    have first := listing_insertAlias sound.wellFormed.ordered owned free.1
    have stillFree := listing_insertAlias_of_free sound.wellFormed.ordered owned free.1 distinct.1
      free.2
    have stillOwned := (first host).trans (if_pos rfl)
    rw [value_addAliases_cons, listed grown stillOwned distinct.2 stillFree, first]
    by_cases here : key = host
    · simp [here]
    · by_cases there : key ∈ rest.map normalizeHostName
      · simp [here, there]
      · simp [here, there]

/-- A host that is entered takes no other free name. -/
theorem listing_enterHost (sound : r.Sound) {target : H} {entries : Table (HostEntry H A W)}
    (inserted : r.entries.insert? (normalizeHostName name) (.real { target }) = some entries)
    {others : List String} (apart : normalizeHostName name ∉ others)
    (stillFree : ∀ other ∈ others, r.listing other = none) :
    ({ r with entries } : Router H A W).Sound ∧
      ({ r with entries } : Router H A W).listing (normalizeHostName name) =
        some (.real { target }) ∧
      ∀ other ∈ others, ({ r with entries } : Router H A W).listing other = none := by
  have entered : Edit r { r with entries } := .enterHost inserted
  have reading := listing_insert sound.wellFormed.ordered inserted
  refine ⟨entered.sound sound, ?_, fun other mem => ?_⟩
  · rw [reading, if_pos rfl]
    rfl
  · have elsewhere : other ≠ normalizeHostName name := fun same => apart (same ▸ mem)
    rw [reading, if_neg elsewhere, stillFree other mem]

variable [DecidableEq H]

/-- A host whose name and aliases are free is registered under all of them. -/
theorem listing_addHost (sound : r.Sound) {aliases : List String}
    (distinct : ((name :: aliases).map normalizeHostName).Nodup)
    (free : ∀ key ∈ (name :: aliases).map normalizeHostName, r.listing key = none) (target : H) :
    Renames r (r.addHost name aliases target).value.2 ∧
      ∀ key, (r.addHost name aliases target).value.2.listing key =
        if key = normalizeHostName name
        then some (.real { target, aliases := aliases.map normalizeHostName })
        else if key ∈ aliases.map normalizeHostName then some (.aliasOf (normalizeHostName name))
        else r.listing key := by
  rw [List.map_cons, List.nodup_cons] at distinct
  rw [List.map_cons, List.forall_mem_cons] at free
  have ordered := sound.wellFormed.ordered
  obtain ⟨entries, inserted, answer⟩ :=
    addHost_free ordered (listing_eq_none_iff.1 free.1) aliases target
  obtain ⟨grown, owned, stillFree⟩ := listing_enterHost sound inserted distinct.1 free.2
  refine ⟨renames_addHost sound name aliases target, fun key => ?_⟩
  rw [answer]
  refine (listing_addAliases grown owned distinct.2 stillFree key).trans ?_
  rw [listing_insert ordered inserted]
  by_cases here : key = normalizeHostName name
  · simp [here]
  · simp [here]

/-! ## Versions -/

omit [DecidableEq H]

/-- `next` differs from `r` in what is deployed at one place. -/
structure Places (r next : Router H A W) (place : Coordinates) (version : Version A W) : Prop where
  sound : next.Sound
  listing : next.listing = r.listing
  defaultHost : next.defaultHost = r.defaultHost
  version? : ∀ other, next.version? other = if other = place then some version else r.version? other

omit [DecidableEq A] [DecidableEq W] in
/-- Nothing is new where the version is there already. -/
theorem Places.refl (sound : r.Sound) {place : Coordinates} {version : Version A W}
    (there : r.version? place = some version) : Places r r place version where
  sound := sound
  listing := rfl
  defaultHost := rfl
  version? other := by
    split
    · rename_i here
      rw [here, there]
    · rfl

omit [DecidableEq A] [DecidableEq W] in
theorem Places.trans {middle : Router H A W} {place : Coordinates} {first second : Version A W}
    (one : Places r middle place first) (two : Places middle next place second) :
    Places r next place second where
  sound := two.sound
  listing := two.listing.trans one.listing
  defaultHost := two.defaultHost.trans one.defaultHost
  version? other := by
    rw [two.version?, one.version?]
    split <;> rfl

theorem places_modifyVersion (sound : r.Sound) {place : Coordinates} {version : Version A W}
    (deployed : r.find place = .ok version) {f : Version A W → Version A W}
    (revision : version.Revision (f version)) :
    Places r (r.modifyVersion place f) (stored place) (f version) where
  sound := (Edit.revise deployed revision).sound sound
  listing := listing_modifyMounts sound.wellFormed.ordered _ _
  defaultHost := rfl
  version? := version?_modifyVersion sound.wellFormed (find_eq_ok_iff.1 deployed) f

/-- A version is deployed at a place that is free, on a host that is there. -/
theorem deploy_free [DecidableEq H] (sound : r.Sound) {owner : Host H A W}
    (known : r.host? (normalizeHostName host) = some owner) (deployment : Deployment A W)
    (free : r.version? ⟨normalizeHostName host, deployment.path, deployment.version⟩ = none)
    {handlers : HandlerSet W}
    (gathered : (gather deployment.path .empty deployment.handlers).value = .ok handlers)
    (hostTarget : H) :
    ∃ next, (r.deploy host hostTarget deployment).value = (.ok .added, next) ∧
      Places r next ⟨normalizeHostName host, deployment.path, deployment.version⟩
        (deployment.publication handlers) ∧
      next.index = r.index.record deployment.target
        ⟨normalizeHostName host, deployment.path, deployment.version⟩ := by
  have ordered := sound.wellFormed.ordered
  have hostOrdered := sound.wellFormed.of_host? known
  rw [version?, known, Option.bind_some] at free
  dsimp only at free
  obtain ⟨published, done, changed⟩ :=
    hostOrdered.publish_free free (deployment.publication handlers)
  have reached := reachable_of_gather .empty gathered
  have listed := listing_modifyMounts ordered (normalizeHostName host) fun _ => published
  have bound := version?_modifyMounts_update (f := fun _ => published) ordered known changed
  refine ⟨{ r.modifyMounts (normalizeHostName host) fun _ => published with
    index := r.index.record deployment.target
      ⟨normalizeHostName host, deployment.path, deployment.version⟩ }, ?_, ?_, rfl⟩
  · rw [value_deploy, gathered, host?_eq_some_iff.1 known]
    simp only [value_deployOn, done]
  · exact
      { sound := (Edit.deploy known reached done).sound sound
        listing := listed
        defaultHost := rfl
        version? := bound }

/-- Pausing for its own target pauses a version. -/
theorem pause_deployed (sound : r.Sound) {place : Coordinates} {version : Version A W}
    (deployed : r.find place = .ok version) :
    ∃ next, (r.pause place version.target).value = (true, next) ∧
      Places r next (stored place) version.pause := by
  refine ⟨r.modifyVersion place (·.pause), ?_, places_modifyVersion sound deployed (.pause version)⟩
  simp only [pause, deployed, if_true]
  rfl

end Router

end VirtualHosting
