/-
# Router — the routing table

A `Router` holds the host table, the name of the host that stands in for unknown
ones, and for every target the place where it was deployed last. It is a value:
an administrative call builds the next router, and whoever kept the last one
goes on reading it.

* `host?_empty`: a new router has no hosts.
-/
import VirtualHosting.Host

namespace VirtualHosting

set_option autoImplicit false

/-- Where each target was deployed last, unless it was undeployed there. -/
structure TargetIndex (A : Type) where
  place? : A → Option Coordinates

namespace TargetIndex

variable {A : Type}

def empty : TargetIndex A := ⟨fun _ => none⟩

/-- Records a deployment, in place of an earlier one of the same target. -/
def record [DecidableEq A] (index : TargetIndex A) (target : A) (place : Coordinates) :
    TargetIndex A :=
  ⟨fun t => if t = target then some place else index.place? t⟩

/-- Drops a target if `place` is where it was deployed last. -/
def forget [DecidableEq A] (index : TargetIndex A) (target : A) (place : Coordinates) :
    TargetIndex A :=
  ⟨fun t => if t = target ∧ index.place? t = some place then none else index.place? t⟩

/-- Drops every target whose last deployment was on `host`. -/
def forgetHost (index : TargetIndex A) (host : String) : TargetIndex A :=
  ⟨fun t => (index.place? t).filter (·.host != host)⟩

end TargetIndex

/-- The routing table. -/
structure Router (H A W : Type) where
  entries : Table (HostEntry H A W) := {}
  /-- The host for requests that name none, or one that is not registered. -/
  defaultHost : Option String := none
  index : TargetIndex A := TargetIndex.empty

namespace Router

variable {H A W : Type}

/-- The router of no hosts. -/
def empty : Router H A W := {}

/-! ## Reading -/

/-- The host stored under a name, aliases aside. -/
def host? (r : Router H A W) (name : String) : Option (Host H A W) :=
  match r.entries.find? name with
  | some (.real host) => some host
  | _ => none

/-- The host behind an entry: itself, or the one it is an alias of. -/
def hostBehind? (r : Router H A W) : HostEntry H A W → Option (Host H A W)
  | .real host => some host
  | .aliasOf name => r.host? name

/-- The names of the hosts in table order, aliases aside. -/
def hostNames (r : Router H A W) : List String :=
  (r.entries.toList.filter (!·.2.isAlias)).map (·.1)

/-- The version deployed at a place whose host name is in stored form. -/
def version? (r : Router H A W) (place : Coordinates) : Option (Version A W) :=
  (r.host? place.host).bind (·.mounts.version? place.path place.version)

/-- The same place with its host name in stored form. -/
def stored (place : Coordinates) : Coordinates :=
  { place with host := normalizeHostName place.host }

/-- The version deployed at a place, or what is missing on the way to it. -/
def find (r : Router H A W) (place : Coordinates) : Except Refusal (Version A W) :=
  let host := normalizeHostName place.host
  match r.entries.find? host with
  | none => .error (.unknownHost host)
  | some (.aliasOf _) => .error (.hostIsAlias host)
  | some (.real found) =>
    match found.mounts.find? place.path with
    | none => .error (.unknownApplication host place.path)
    | some application =>
      match application.versions.find? place.version with
      | none => .error (.unknownVersion (stored place))
      | some version => .ok version

/-! ## Changing one host or version -/

/-- Changes the host stored under a name. -/
def modifyHost (r : Router H A W) (name : String) (f : Host H A W → Host H A W) :
    Router H A W :=
  { r with entries := r.entries.modify name (·.modify f) }

/-- Changes what is mounted on the host stored under a name. -/
def modifyMounts (r : Router H A W) (name : String) (f : Mounts A W → Mounts A W) :
    Router H A W :=
  r.modifyHost name fun host => { host with mounts := f host.mounts }

/-- Changes the version deployed at a place. -/
def modifyVersion (r : Router H A W) (place : Coordinates) (f : Version A W → Version A W) :
    Router H A W :=
  r.modifyMounts (normalizeHostName place.host)
    (·.modifyVersions place.path (·.modify place.version f))

@[simp]
theorem host?_empty (name : String) : (empty : Router H A W).host? name = none := by
  unfold host? empty
  rw [show (Table.find? ({} : Table (HostEntry H A W)) name) = none from Table.find?_empty name]

end Router

end VirtualHosting
