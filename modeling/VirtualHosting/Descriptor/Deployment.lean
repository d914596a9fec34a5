/-
# Descriptor.Deployment — from a descriptor to a routing table

Every host of a descriptor is registered with its aliases, then its applications
are deployed one by one and paused where the descriptor says so. Targets are the
descriptor's own names. Two hosts, applications or handlers of the same name are
still two, so a target also says where in the descriptor it stands; all patterns
of one handler share its target.
-/
import VirtualHosting.Descriptor
import VirtualHosting.Resource.DocumentRoot
import VirtualHosting.Router.Deployments

namespace VirtualHosting

set_option autoImplicit false

/-- A name of the descriptor and the position it stands at. -/
structure Label where
  position : List Nat
  text : String
  deriving DecidableEq, Repr

/-- A routing table whose targets are names of a descriptor. -/
abbrev LabelledRouter := Router Label Label Label

namespace Descriptor

/-- The mappings of one handler. -/
def mappingsOf (position : List Nat) (handler : HandlerSpec) : List (HandlerMapping Label) :=
  handler.patterns.map fun pattern =>
    { pattern, target := ⟨position, handler.name⟩,
      flags := ⟨handler.template, handler.resourceOnly⟩ }

/-- The deployment of an application. `names` answers what a path of the file
system names. -/
def deploymentOf (names : String → ResourceKind) (position : List Nat) (app : ApplicationSpec) :
    Deployment Label Label where
  path := app.path
  version := app.version
  target := ⟨position, applicationLabel app.path app.version⟩
  settings :=
    { resources := app.documentRoot.map (DocumentRoot.probe names)
      welcomeFiles := app.welcomeFiles
      rootRedirect := app.rootRedirect
      directoryRedirect := app.directoryRedirect }
  handlers :=
    (app.handlers.zipIdx.map fun (handler, i) => mappingsOf (position ++ [i]) handler).flatten

/-- Pauses what is deployed at a place, for whatever target. -/
def pauseAt (r : LabelledRouter) (place : Coordinates) : Logged (Except Refusal LabelledRouter) :=
  match r.find place with
  | .error refusal => pure (.error refusal)
  | .ok version => do
    let (_, next) ← r.pause place version.target
    return .ok next

/-- Deploys one application of a host. -/
def deployApplication (names : String → ResourceKind) (host : HostSpec) (target : Label)
    (position : List Nat) (r : LabelledRouter) (app : ApplicationSpec) :
    Logged (Except Refusal LabelledRouter) := do
  let (outcome, next) ← r.deploy host.name target (deploymentOf names position app)
  match outcome with
  | .error refusal => return .error refusal
  | .ok _ =>
    if app.paused then pauseAt next ⟨host.name, app.path, app.version⟩ else return .ok next

/-- Deploys the applications of a host, the first of them the `n`th. -/
def deployApplications (names : String → ResourceKind) (host : HostSpec) (target : Label) (n : Nat)
    (r : LabelledRouter) : List ApplicationSpec → Logged (Except Refusal LabelledRouter)
  | [] => pure (.ok r)
  | app :: rest => do
    match ← deployApplication names host target (target.position ++ [n]) r app with
    | .error refusal => return .error refusal
    | .ok next => deployApplications names host target (n + 1) next rest

/-- Registers the hosts and deploys what is on them, the first of them the `n`th. -/
def deployHosts (names : String → ResourceKind) (n : Nat) (r : LabelledRouter) :
    List HostSpec → Logged (Except Refusal LabelledRouter)
  | [] => pure (.ok r)
  | host :: rest => do
    let target : Label := ⟨[n], host.name⟩
    let (_, registered) ← r.addHost host.name host.aliases target
    match ← deployApplications names host target 0 registered host.applications with
    | .error refusal => return .error refusal
    | .ok next => deployHosts names (n + 1) next rest

/-- Builds the routing table of a descriptor, or stops at the first refusal. -/
def build (names : String → ResourceKind) (d : Descriptor) :
    Logged (Except Refusal LabelledRouter) := do
  let start ← (Router.empty : LabelledRouter).setDefaultHost d.defaultHost
  match ← deployHosts names 0 start d.hosts with
  | .error refusal => return .error refusal
  | .ok r => do
    Logged.tell (.descriptorDeployed d.hosts.length d.applications.length d.defaultHost)
    return .ok r

end Descriptor

end VirtualHosting
