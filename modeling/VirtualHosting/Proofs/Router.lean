/-
# Proofs.Router — what a call does, its log aside

An administrative call logs on the way, but what it answers and the router it
leaves behind do not depend on the log. Each registration is given here as an
equation on its value alone, beside the equations for reading a router whose
entries or mounts were changed in one place. Later modules cite these and open
no call again.

* `value_addHost`, `value_removeHost`, `value_addAlias`, `value_removeAlias`,
  `value_deploy`, `value_undeploy`: the registrations;
* `value_addHandler`, `value_removeHandler`: the handlers of a version;
* `host?_enterAlias`, `host?_dropAlias`: an alias comes or goes and every host stays;
* `find?_modifyHost`, `host?_modifyMounts`: one host changes and no other name does.
-/
import VirtualHosting.Proofs.Table
import VirtualHosting.Router.Call

namespace VirtualHosting

set_option autoImplicit false

variable {H A W : Type}

/-- The version that a deployment publishes, once its patterns are read. -/
def Deployment.publication (deployment : Deployment A W) (handlers : HandlerSet W) :
    Version A W :=
  { path := deployment.path, target := deployment.target, settings := deployment.settings,
    handlers }

namespace Router

variable {r : Router H A W} {name : String}

/-! ## Reading -/

theorem host?_eq_some_iff {host : Host H A W} :
    r.host? name = some host ↔ r.entries.find? name = some (.real host) := by
  unfold host?
  split
  · rename_i found there
    simp [there]
  · rename_i other
    constructor
    · intro impossible
      cases impossible
    · intro there
      exact absurd there (other host)

theorem find_eq_ok_iff {place : Coordinates} {version : Version A W} :
    r.find place = .ok version ↔ r.version? (stored place) = some version := by
  unfold find version? host? Mounts.version?
  simp only [stored]
  split
  · rename_i missing
    simp [missing]
  · rename_i there
    simp [there]
  · rename_i host there
    simp only [there, Option.bind_some]
    split
    · rename_i missing
      simp [missing]
    · rename_i application found
      rw [found, Option.bind_some]
      split
      · rename_i missing
        simp [missing]
      · rename_i version' there'
        simp [there']

theorem version?_eq_some_iff {place : Coordinates} {version : Version A W} :
    r.version? place = some version ↔
      ∃ host application, r.host? place.host = some host ∧
        host.mounts.find? place.path = some application ∧
        application.versions.find? place.version = some version := by
  simp [version?, Mounts.version?, Option.bind_eq_some_iff]

/-! ## Names that come and go -/

theorem host?_congr {next : Router H A W} {key : String}
    (same : next.entries.find? key = r.entries.find? key) : next.host? key = r.host? key := by
  rw [host?, same, host?]

theorem host?_of_find?_eq_none (free : r.entries.find? name = none) : r.host? name = none := by
  rw [host?, free]

/-- A name that can be inserted is not that of a host. -/
theorem host?_eq_none_of_insert? (ordered : r.entries.Ordered) {entry : HostEntry H A W}
    {entries : Table (HostEntry H A W)} (inserted : r.entries.insert? name entry = some entries) :
    r.host? name = none :=
  host?_of_find?_eq_none (ordered.find?_eq_none_iff.2 (ordered.not_mem_of_insert? inserted))

/-- A new alias is no host and takes none away. -/
theorem host?_enterAlias (ordered : r.entries.Ordered) {host : String}
    {entries : Table (HostEntry H A W)}
    (inserted : r.entries.insert? name (.aliasOf host) = some entries) (key : String) :
    ({ r with entries } : Router H A W).host? key = r.host? key := by
  have reading := ordered.find?_insert? inserted
  by_cases here : key = name
  · have entered : entries.find? key = some (.aliasOf host) := (reading key).trans (if_pos here)
    have before : r.host? key = none := here ▸ host?_eq_none_of_insert? ordered inserted
    rw [before]
    simp only [host?, entered]
  · exact host?_congr ((reading key).trans (if_neg here))

/-- An alias that leaves takes no host along. -/
theorem host?_dropAlias (ordered : r.entries.Ordered) {host : String}
    (known : r.entries.find? name = some (.aliasOf host)) {entries : Table (HostEntry H A W)}
    (erased : r.entries.erase? name = some entries) (key : String) :
    ({ r with entries } : Router H A W).host? key = r.host? key := by
  have reading := ordered.find?_erase? erased
  by_cases here : key = name
  · have before : r.host? key = none := by rw [here, host?, known]
    rw [before, host?_of_find?_eq_none ((reading key).trans (if_pos here))]
  · exact host?_congr ((reading key).trans (if_neg here))

/-! ## Changing one host -/

theorem find?_modifyHost (ordered : r.entries.Ordered) (name : String)
    (f : Host H A W → Host H A W) (key : String) :
    (r.modifyHost name f).entries.find? key =
      if key = name then (r.entries.find? key).map (·.modify f) else r.entries.find? key :=
  ordered.find?_modify name _ key

theorem host?_modifyHost (ordered : r.entries.Ordered) (name : String)
    (f : Host H A W → Host H A W) (key : String) :
    (r.modifyHost name f).host? key =
      if key = name then (r.host? key).map f else r.host? key := by
  ext host
  rw [host?_eq_some_iff, find?_modifyHost ordered]
  split
  · simp only [Option.map_eq_some_iff, host?_eq_some_iff]
    constructor
    · rintro ⟨_ | _, there, same⟩
      · cases same
        exact ⟨_, there, rfl⟩
      · cases same
    · rintro ⟨host', there, rfl⟩
      exact ⟨_, there, rfl⟩
  · exact host?_eq_some_iff.symm

theorem host?_modifyMounts (ordered : r.entries.Ordered) (name : String)
    (f : Mounts A W → Mounts A W) (key : String) :
    (r.modifyMounts name f).host? key =
      if key = name then (r.host? key).map fun host => { host with mounts := f host.mounts }
      else r.host? key :=
  host?_modifyHost ordered name _ key

/-! ## Hosts and aliases -/

theorem value_insertAlias (r : Router H A W) (host name : String) :
    (r.insertAlias host name).value =
      match r.entries.insert? name (.aliasOf host) with
      | some entries =>
        (.added, ({ r with entries } : Router H A W).modifyHost host
          fun h => { h with aliases := h.aliases ++ [name] })
      | none =>
        if (r.entries.find? name).any (·.belongsTo host name) then (.unchanged, r)
        else (.rejected, r) := by
  unfold insertAlias
  cases r.entries.insert? name (.aliasOf host) with
  | some entries => rfl
  | none =>
    simp only
    split <;> rfl

theorem value_addAliases_cons (r : Router H A W) (host name : String) (rest : List String) :
    (r.addAliases host (name :: rest)).value =
      ((r.insertAlias host (normalizeHostName name)).value.2.addAliases host rest).value :=
  rfl

theorem value_addHost [DecidableEq H] (r : Router H A W) (name : String) (aliases : List String)
    (target : H) :
    (r.addHost name aliases target).value =
      match r.entries.find? (normalizeHostName name) with
      | some (.aliasOf _) => (.rejected, r)
      | some (.real host) =>
        if host.target = target then
          (.unchanged, (r.addAliases (normalizeHostName name) aliases).value)
        else (.rejected, r)
      | none =>
        let next := match r.entries.insert? (normalizeHostName name) (.real { target }) with
          | some entries => { r with entries }
          | none => r
        (.added, (next.addAliases (normalizeHostName name) aliases).value) := by
  unfold addHost
  dsimp only
  cases r.entries.find? (normalizeHostName name) with
  | none => rfl
  | some entry =>
    cases entry with
    | aliasOf host => rfl
    | real host =>
      simp only
      split <;> rfl

theorem value_removeHost (r : Router H A W) (name : String) :
    (r.removeHost name).value =
      match r.host? (normalizeHostName name) with
      | none => (false, r)
      | some _ =>
        (true,
          { r with
            entries := r.entries.filter fun e => !e.2.belongsTo (normalizeHostName name) e.1
            index := r.index.forgetHost (normalizeHostName name) }) := by
  unfold removeHost
  dsimp only
  cases r.host? (normalizeHostName name) <;> rfl

theorem value_addAlias (r : Router H A W) (host name : String) :
    (r.addAlias host name).value =
      match r.entries.find? (normalizeHostName host) with
      | none => (.error (.unknownHost (normalizeHostName host)), r)
      | some entry =>
        let (outcome, next) :=
          (r.insertAlias (entry.realName (normalizeHostName host)) (normalizeHostName name)).value
        (.ok outcome, next) := by
  unfold addAlias
  dsimp only
  cases r.entries.find? (normalizeHostName host) <;> rfl

theorem value_removeAlias (r : Router H A W) (name : String) :
    (r.removeAlias name).value =
      match r.entries.find? (normalizeHostName name) with
      | some (.aliasOf host) =>
        match r.entries.erase? (normalizeHostName name) with
        | none => (false, r)
        | some entries =>
          (true, ({ r with entries } : Router H A W).modifyHost host
            fun h => { h with aliases := h.aliases.erase (normalizeHostName name) })
      | _ => (false, r) := by
  unfold removeAlias
  dsimp only
  cases r.entries.find? (normalizeHostName name) with
  | none => rfl
  | some entry =>
    cases entry with
    | real host => rfl
    | aliasOf host => cases r.entries.erase? (normalizeHostName name) <;> rfl

/-! ## Deployments -/

theorem value_readPattern (written : String) :
    (readPattern written).value =
      match Pattern.parse written with
      | .error fault => .error (.invalidPattern written fault)
      | .ok p => .ok p := by
  unfold readPattern
  cases Pattern.parse written with
  | error fault => rfl
  | ok p =>
    dsimp only
    split <;> rfl

theorem value_gather_cons [DecidableEq W] (application : String) (set : HandlerSet W)
    (mapping : HandlerMapping W) (rest : List (HandlerMapping W)) :
    (gather application set (mapping :: rest)).value =
      match Pattern.parse mapping.pattern with
      | .error fault => .error (.invalidPattern mapping.pattern fault)
      | .ok p =>
        match set.add p mapping.target mapping.flags with
        | .changed next => (gather application next rest).value
        | _ => (gather application set rest).value := by
  rw [gather, Logged.value_bind, value_readPattern]
  cases Pattern.parse mapping.pattern with
  | error fault => rfl
  | ok p =>
    simp only
    cases set.add p mapping.target mapping.flags <;> rfl

theorem value_deployOn [DecidableEq A] (r : Router H A W) (host : String) (mounts : Mounts A W)
    (deployment : Deployment A W) (handlers : HandlerSet W) :
    (r.deployOn host mounts deployment handlers).value =
      match publish mounts deployment.path deployment.version
          (deployment.publication handlers) with
      | (.added, published) =>
        (.added, { r.modifyMounts host fun _ => published with
          index := r.index.record deployment.target
            ⟨host, deployment.path, deployment.version⟩ })
      | (outcome, _) => (outcome, r) := by
  unfold deployOn Deployment.publication
  dsimp only
  generalize publish mounts deployment.path deployment.version
    { path := deployment.path, target := deployment.target,
      settings := deployment.settings, handlers } = answer
  obtain ⟨outcome, published⟩ := answer
  cases outcome <;> rfl

theorem value_deploy [DecidableEq H] [DecidableEq A] [DecidableEq W] (r : Router H A W)
    (host : String) (hostTarget : H) (deployment : Deployment A W) :
    (r.deploy host hostTarget deployment).value =
      match (gather deployment.path .empty deployment.handlers).value with
      | .error refusal => (.error refusal, r)
      | .ok handlers =>
        match r.entries.find? (normalizeHostName host) with
        | some (.aliasOf _) => (.error (.hostIsAlias (normalizeHostName host)), r)
        | some (.real known) =>
          let (outcome, next) :=
            (r.deployOn (normalizeHostName host) known.mounts deployment handlers).value
          (.ok outcome, next)
        | none =>
          let grown := (r.addHost (normalizeHostName host) [] hostTarget).value.2
          let (outcome, next) :=
            (grown.deployOn (normalizeHostName host) .empty deployment handlers).value
          (.ok outcome, next) := by
  unfold deploy
  dsimp only
  rw [Logged.value_bind]
  cases (gather deployment.path .empty deployment.handlers).value with
  | error refusal => rfl
  | ok handlers =>
    dsimp only
    cases r.entries.find? (normalizeHostName host) with
    | none => rfl
    | some entry => cases entry <;> rfl

theorem value_undeploy [DecidableEq A] (r : Router H A W) (place : Coordinates) :
    (r.undeploy place).value =
      match r.host? (normalizeHostName place.host) with
      | none => (false, r)
      | some host =>
        match host.mounts.find? place.path with
        | none => (false, r)
        | some application =>
          match application.versions.find? place.version,
            application.versions.erase? place.version with
          | some removed, some remaining =>
            let next := r.modifyMounts (normalizeHostName place.host) fun mounts =>
              if remaining.isEmpty then (mounts.remove? place.path).getD mounts
              else mounts.modifyVersions place.path fun _ => remaining
            (true, { next with index := next.index.forget removed.target (stored place) })
          | _, _ => (false, r) := by
  unfold undeploy stored
  dsimp only
  cases r.host? (normalizeHostName place.host) with
  | none => rfl
  | some host =>
    dsimp only
    cases host.mounts.find? place.path with
    | none => rfl
    | some application =>
      dsimp only
      cases application.versions.find? place.version <;>
        cases application.versions.erase? place.version <;> rfl

/-! ## Handlers -/

theorem value_addHandler [DecidableEq W] (r : Router H A W) (place : Coordinates)
    (pattern : String) (target : W) (flags : HandlerFlags) :
    (r.addHandler place pattern target flags).value =
      match Pattern.parse pattern with
      | .error fault => (.error (.invalidPattern pattern fault), r)
      | .ok p =>
        match r.find place with
        | .error refusal => (.error refusal, r)
        | .ok version =>
          match version.handlers.add p target flags with
          | .changed handlers => (.ok .added, r.modifyVersion place (·.withHandlers handlers))
          | .unchanged => (.ok .unchanged, r)
          | .conflict => (.ok .rejected, r) := by
  unfold addHandler
  rw [Logged.value_bind, value_readPattern]
  cases Pattern.parse pattern with
  | error fault => rfl
  | ok p =>
    dsimp only
    cases r.find place with
    | error refusal => rfl
    | ok version =>
      dsimp only
      cases version.handlers.add p target flags <;> rfl

theorem value_removeHandler (r : Router H A W) (place : Coordinates) (pattern : String) :
    (r.removeHandler place pattern).value =
      match Pattern.parse pattern with
      | .error fault => (.error (.invalidPattern pattern fault), r)
      | .ok p =>
        match r.find place with
        | .error refusal => (.error refusal, r)
        | .ok version =>
          match version.handlers.remove? p with
          | none => (.ok false, r)
          | some handlers => (.ok true, r.modifyVersion place (·.withHandlers handlers)) := by
  unfold removeHandler
  rw [Logged.value_bind, value_readPattern]
  cases Pattern.parse pattern with
  | error fault => rfl
  | ok p =>
    dsimp only
    cases r.find place with
    | error refusal => rfl
    | ok version =>
      dsimp only
      cases version.handlers.remove? p <;> rfl

end Router

end VirtualHosting
