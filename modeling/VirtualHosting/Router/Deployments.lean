/-
# Router.Deployments — deploying, changing and withdrawing versions

All patterns of a deployment are read before anything is published, so a
malformed one leaves no trace. A version that is deployed already keeps what it
has, handlers, welcome files and pause included, whatever is deployed over it.

* `gather_nil`: a deployment without handlers has the empty set.
-/
import VirtualHosting.Router.Hosts

namespace VirtualHosting.Router

set_option autoImplicit false

variable {H A W : Type}

/-- Reads a pattern, and reports one that was hardly meant as written. -/
def readPattern (text : String) : Logged (Except Refusal Pattern) :=
  match Pattern.parse text with
  | .error fault => pure (.error (.invalidPattern text fault))
  | .ok p => do
    if p.isUnusual then Logged.tell (.patternUnusual text)
    return .ok p

/-- Adds the handlers of a deployment to `set`. Of two handlers for one pattern
the first is kept and the other reported. -/
def gather [DecidableEq W] (application : String) (set : HandlerSet W) :
    List (HandlerMapping W) → Logged (Except Refusal (HandlerSet W))
  | [] => pure (.ok set)
  | mapping :: rest => do
    match ← readPattern mapping.pattern with
    | .error refusal => return .error refusal
    | .ok p =>
      match set.add p mapping.target mapping.flags with
      | .changed next => gather application next rest
      | .unchanged => gather application set rest
      | .conflict => do
        Logged.tell (.patternDropped p.text application)
        gather application set rest

/-- Publishes a version on a host's mounts. -/
def publish [DecidableEq A] (mounts : Mounts A W) (path label : String) (version : Version A W) :
    Registration × Mounts A W :=
  match mounts.find? path with
  | none =>
    match mounts.add? path ⟨Table.singleton label version⟩ with
    | some next => (.added, next)
    | none => (.added, mounts)
  | some application =>
    match application.versions.insert? label version with
    | some versions => (.added, mounts.modifyVersions path fun _ => versions)
    | none =>
      match application.versions.find? label with
      | some existing =>
        if existing.target = version.target then (.unchanged, mounts) else (.rejected, mounts)
      | none => (.rejected, mounts)

/-- The event of a deployment that came to `outcome`. -/
def deploymentEvent (place : Coordinates) : Registration → Event
  | .added => .versionRegistered place
  | .unchanged => .versionAlreadyDeployed place
  | .rejected => .versionRefused place

/-- Deploys a version on a host that is registered under its stored name. -/
def deployOn [DecidableEq A] (r : Router H A W) (host : String) (mounts : Mounts A W)
    (deployment : Deployment A W) (handlers : HandlerSet W) :
    Logged (Registration × Router H A W) := do
  let place : Coordinates := ⟨host, deployment.path, deployment.version⟩
  let version : Version A W :=
    { path := deployment.path, target := deployment.target, settings := deployment.settings,
      handlers }
  let (outcome, published) := publish mounts deployment.path deployment.version version
  Logged.tell (deploymentEvent place outcome)
  match outcome with
  | .added =>
    let next := r.modifyMounts host fun _ => published
    return (outcome, { next with index := next.index.record deployment.target place })
  | _ => return (outcome, r)

/-- Deploys a version, registering its host first if it is new. -/
def deploy [DecidableEq H] [DecidableEq A] [DecidableEq W] (r : Router H A W) (host : String)
    (hostTarget : H) (deployment : Deployment A W) :
    Logged (Except Refusal Registration × Router H A W) := do
  let host := normalizeHostName host
  match ← gather deployment.path .empty deployment.handlers with
  | .error refusal => return (.error refusal, r)
  | .ok handlers =>
    match r.entries.find? host with
    | some (.aliasOf _) => return (.error (.hostIsAlias host), r)
    | some (.real known) =>
      let (outcome, next) ← r.deployOn host known.mounts deployment handlers
      return (.ok outcome, next)
    | none => do
      let (_, grown) ← r.addHost host [] hostTarget
      let (outcome, next) ← grown.deployOn host .empty deployment handlers
      return (.ok outcome, next)

/-- Withdraws a version. An application leaves with its last version. -/
def undeploy [DecidableEq A] (r : Router H A W) (place : Coordinates) :
    Logged (Bool × Router H A W) :=
  let place := stored place
  match r.host? place.host with
  | none => pure (false, r)
  | some host =>
    match host.mounts.find? place.path with
    | none => pure (false, r)
    | some application =>
      match application.versions.find? place.version, application.versions.erase? place.version with
      | some removed, some remaining => do
        Logged.tell (.versionRemoved place)
        let next := r.modifyMounts place.host fun mounts =>
          if remaining.isEmpty then (mounts.remove? place.path).getD mounts
          else mounts.modifyVersions place.path fun _ => remaining
        return (true, { next with index := next.index.forget removed.target place })
      | _, _ => pure (false, r)

/-- Pauses the version at a place if it is the one deployed for `target`. -/
def pause [DecidableEq A] (r : Router H A W) (place : Coordinates) (target : A) :
    Logged (Bool × Router H A W) :=
  match r.find place with
  | .error _ => pure (false, r)
  | .ok version =>
    if version.target = target then do
      Logged.tell (.versionPaused place)
      return (true, r.modifyVersion place (·.pause))
    else pure (false, r)

/-! ## Handlers -/

/-- Maps a pattern to a target in the version at a place. -/
def addHandler [DecidableEq W] (r : Router H A W) (place : Coordinates) (pattern : String)
    (target : W) (flags : HandlerFlags) :
    Logged (Except Refusal Registration × Router H A W) := do
  match ← readPattern pattern with
  | .error refusal => return (.error refusal, r)
  | .ok p =>
    match r.find place with
    | .error refusal => return (.error refusal, r)
    | .ok version =>
      let registered (outcome : Registration) : Event :=
        .handlerRegistered place.path place.version p.text outcome
      match version.handlers.add p target flags with
      | .changed handlers => do
        Logged.tell (registered .added)
        return (.ok .added, r.modifyVersion place (·.withHandlers handlers))
      | .unchanged => do
        Logged.tell (registered .unchanged)
        return (.ok .unchanged, r)
      | .conflict => do
        Logged.tell (.handlerRefused place.path place.version p.text)
        return (.ok .rejected, r)

/-- Takes the handler of a pattern away, and says whether there was one. -/
def removeHandler (r : Router H A W) (place : Coordinates) (pattern : String) :
    Logged (Except Refusal Bool × Router H A W) := do
  match ← readPattern pattern with
  | .error refusal => return (.error refusal, r)
  | .ok p =>
    match r.find place with
    | .error refusal => return (.error refusal, r)
    | .ok version =>
      match version.handlers.remove? p with
      | none => return (.ok false, r)
      | some handlers => do
        Logged.tell (.handlerRemoved place.path place.version p.text)
        return (.ok true, r.modifyVersion place (·.withHandlers handlers))

/-- The handler that the version at a place has for a pattern. The pattern is
read first. -/
def handler (r : Router H A W) (place : Coordinates) (pattern : String) :
    Logged (Except Refusal (Option (String × Handler W))) := do
  match ← readPattern pattern with
  | .error refusal => return .error refusal
  | .ok p =>
    match r.find place with
    | .error refusal => return .error refusal
    | .ok version => return .ok ((version.handlers.find? p).map fun h => (p.key, h))

/-! ## Welcome files -/

/-- Whether a name can be a welcome file: relative and not empty. -/
def isWelcomeName (name : String) : Bool :=
  name != "" && !Text.startsWith "/" name

/-- Adds a welcome file to the end of the version's list. -/
def addWelcomeFile (r : Router H A W) (place : Coordinates) (name : String) :
    Except Refusal Registration × Router H A W :=
  if !isWelcomeName name then (.error (.invalidWelcomeFile name), r)
  else match r.find place with
    | .error refusal => (.error refusal, r)
    | .ok version =>
      if name ∈ version.settings.welcomeFiles then (.ok .unchanged, r)
      else (.ok .added, r.modifyVersion place (·.addWelcome name))

/-- Removes a welcome file, and says whether it was listed. -/
def removeWelcomeFile (r : Router H A W) (place : Coordinates) (name : String) :
    Except Refusal Bool × Router H A W :=
  match r.find place with
  | .error refusal => (.error refusal, r)
  | .ok version =>
    if name ∈ version.settings.welcomeFiles then
      (.ok true, r.modifyVersion place (·.removeWelcome name))
    else (.ok false, r)

/-- Empties the version's list of welcome files. -/
def clearWelcomeFiles (r : Router H A W) (place : Coordinates) :
    Except Refusal Unit × Router H A W :=
  match r.find place with
  | .error refusal => (.error refusal, r)
  | .ok _ => (.ok (), r.modifyVersion place (·.withWelcomeFiles []))

@[simp]
theorem gather_nil [DecidableEq W] (application : String) (set : HandlerSet W) :
    gather application set [] = pure (.ok set) := rfl

end VirtualHosting.Router
