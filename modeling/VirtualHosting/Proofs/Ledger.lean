/-
# Proofs.Ledger — registrations as finite maps

What the administrative calls on hosts, aliases and versions do can be said with
two finite maps: what a name stands for, and which target is deployed where.
`Ledger` is that pair and `Ledger.file` carries a call out on it. There are no
tables, lists or nested hosts here, so a call says in a few lines what it does.

* `Ledger.file`: one call;
* `Ledger.replies`, `Ledger.fileAll`: a run of calls;
* `Ledger.Finds`: what looking for a version comes to, with one answer each
  (`Finds.unique`).
-/
import Mathlib.Logic.Function.Basic
import VirtualHosting.Router.Call

namespace VirtualHosting

set_option autoImplicit false

variable {H A W : Type}

/-- What a name stands for. -/
inductive Standing (H : Type) where
  | host (target : H)
  | aliasOf (owner : String)

/-- The name of the host behind what is registered under `name`. -/
def Standing.realName (name : String) : Standing H → String
  | .host _ => name
  | .aliasOf owner => owner

/-- Registrations as finite maps, all names in stored form. -/
structure Ledger (H A : Type) where
  names : String → Option (Standing H) := fun _ => none
  deployed : Coordinates → Option A := fun _ => none

/-- The calls that register hosts, aliases and versions. -/
inductive Filing (H A W : Type) where
  | addHost (name : String) (aliases : List String) (target : H)
  | removeHost (name : String)
  | addAlias (host name : String)
  | removeAlias (name : String)
  | deploy (host : String) (hostTarget : H) (deployment : Deployment A W)
  | undeploy (place : Coordinates)

def Filing.toCall : Filing H A W → Call H A W
  | addHost name aliases target => .addHost name aliases target
  | removeHost name => .removeHost name
  | addAlias host name => .addAlias host name
  | removeAlias name => .removeAlias name
  | deploy host hostTarget deployment => .deploy host hostTarget deployment
  | undeploy place => .undeploy place

namespace Ledger

/-- Nothing registered. -/
def empty : Ledger H A := {}

variable (l : Ledger H A)

/-! ## Hosts and aliases -/

/-- Lets a name stand for a host or an alias. -/
def enter (name : String) (standing : Standing H) : Ledger H A :=
  { l with names := Function.update l.names name (some standing) }

/-- Makes a name an alias of `host`, unless it is taken. -/
def enterFree (host : String) (l : Ledger H A) (name : String) : Ledger H A :=
  match l.names name with
  | none => l.enter name (.aliasOf host)
  | some _ => l

/-- A new name becomes a host. A host of the same target stays. Either gains the
aliases that are free. -/
def addHost [DecidableEq H] (name : String) (aliases : List String) (target : H) :
    Registration × Ledger H A :=
  match l.names name with
  | none => (.added, aliases.foldl (enterFree name) (l.enter name (.host target)))
  | some (.host known) =>
    if known = target then (.unchanged, aliases.foldl (enterFree name) l) else (.rejected, l)
  | some (.aliasOf _) => (.rejected, l)

/-- A host leaves with its aliases and all that is deployed on it. -/
def removeHost (name : String) : Bool × Ledger H A :=
  match l.names name with
  | some (.host _) =>
    (true,
      { names := fun other => (l.names other).filter fun standing => standing.realName other != name
        deployed := fun place => if place.host = name then none else l.deployed place })
  | _ => (false, l)

/-- A free name becomes an alias of the host behind `host`. -/
def addAlias (host name : String) : Except Refusal Registration × Ledger H A :=
  match l.names host with
  | none => (.error (.unknownHost host), l)
  | some standing =>
    match l.names name with
    | none => (.ok .added, l.enter name (.aliasOf (standing.realName host)))
    | some taken =>
      if taken.realName name = standing.realName host then (.ok .unchanged, l)
      else (.ok .rejected, l)

/-- An alias leaves. -/
def removeAlias (name : String) : Bool × Ledger H A :=
  match l.names name with
  | some (.aliasOf _) => (true, { l with names := Function.update l.names name none })
  | _ => (false, l)

/-! ## Deployments -/

/-- What is wrong with the first malformed pattern. -/
def firstFault (mappings : List (HandlerMapping W)) : Option Refusal :=
  mappings.findSome? fun mapping =>
    match Pattern.parse mapping.pattern with
    | .error fault => some (.invalidPattern mapping.pattern fault)
    | .ok _ => none

/-- A free place receives the target. -/
def publish [DecidableEq A] (place : Coordinates) (target : A) : Registration × Ledger H A :=
  match l.deployed place with
  | none => (.added, { l with deployed := Function.update l.deployed place (some target) })
  | some known => (if known = target then .unchanged else .rejected, l)

/-- A version is deployed on a host, which is registered first if its name is new. -/
def deploy [DecidableEq A] (host : String) (hostTarget : H) (deployment : Deployment A W) :
    Except Refusal Registration × Ledger H A :=
  match firstFault deployment.handlers with
  | some refusal => (.error refusal, l)
  | none =>
    let place : Coordinates := ⟨host, deployment.path, deployment.version⟩
    match l.names host with
    | some (.aliasOf _) => (.error (.hostIsAlias host), l)
    | some (.host _) => ((l.publish place deployment.target).map .ok id)
    | none => ((l.enter host (.host hostTarget)).publish place deployment.target).map .ok id

/-- A version leaves. -/
def undeploy (place : Coordinates) : Bool × Ledger H A :=
  match l.deployed place with
  | none => (false, l)
  | some _ => (true, { l with deployed := Function.update l.deployed place none })

/-! ## Calls and runs -/

variable [DecidableEq H] [DecidableEq A]

/-- Carries a call out, all names in it brought into stored form. -/
def file : Filing H A W → Reply × Ledger H A
  | .addHost name aliases target =>
    (l.addHost (normalizeHostName name) (aliases.map normalizeHostName) target).map
      .registration id
  | .removeHost name => (l.removeHost (normalizeHostName name)).map .flag id
  | .addAlias host name =>
    (l.addAlias (normalizeHostName host) (normalizeHostName name)).map .ofRegistration id
  | .removeAlias name => (l.removeAlias (normalizeHostName name)).map .flag id
  | .deploy host hostTarget deployment =>
    (l.deploy (normalizeHostName host) hostTarget deployment).map .ofRegistration id
  | .undeploy place => (l.undeploy (Router.stored place)).map .flag id

/-- What the calls of a run answer. -/
def replies (l : Ledger H A) : List (Filing H A W) → List Reply
  | [] => []
  | filing :: rest => (l.file filing).1 :: replies (l.file filing).2 rest

/-- The ledger after a run of calls. -/
def fileAll (l : Ledger H A) (filings : List (Filing H A W)) : Ledger H A :=
  filings.foldl (fun l filing => (l.file filing).2) l

omit [DecidableEq H] [DecidableEq A]

/-! ## Names bring and take no versions -/

theorem deployed_enterFree (host name : String) :
    (l.enterFree host name).deployed = l.deployed := by
  unfold enterFree
  split <;> rfl

theorem deployed_foldl_enterFree (host : String) (names : List String) :
    (names.foldl (enterFree host) l).deployed = l.deployed := by
  induction names generalizing l with
  | nil => rfl
  | cons name rest same => exact (same _).trans (l.deployed_enterFree host name)

theorem deployed_addHost [DecidableEq H] (name : String) (aliases : List String) (target : H) :
    (l.addHost name aliases target).2.deployed = l.deployed := by
  unfold addHost
  split
  · exact deployed_foldl_enterFree _ name aliases
  · split
    · exact l.deployed_foldl_enterFree name aliases
    · rfl
  · rfl

theorem deployed_addAlias (host name : String) :
    (l.addAlias host name).2.deployed = l.deployed := by
  unfold addAlias
  cases l.names host with
  | none => rfl
  | some standing =>
    cases l.names name with
    | none => rfl
    | some taken =>
      dsimp only
      split <;> rfl

theorem deployed_removeAlias (name : String) : (l.removeAlias name).2.deployed = l.deployed := by
  unfold removeAlias
  split <;> rfl

/-- A deployment is refused outright, or comes down to a publication. The host that is
registered for it, if it is new, brings no versions. -/
theorem deploy_cases [DecidableEq A] (l : Ledger H A) (host : String) (hostTarget : H)
    (deployment : Deployment A W) :
    (∃ refusal, l.deploy host hostTarget deployment = (.error refusal, l)) ∨
      ∃ known : Ledger H A, known.deployed = l.deployed ∧
        l.deploy host hostTarget deployment =
          (known.publish ⟨host, deployment.path, deployment.version⟩ deployment.target).map
            .ok id := by
  unfold deploy
  cases firstFault deployment.handlers with
  | some refusal => exact .inl ⟨refusal, rfl⟩
  | none =>
    cases l.names host with
    | none => exact .inr ⟨l.enter host (.host hostTarget), rfl, rfl⟩
    | some standing =>
      cases standing with
      | aliasOf owner => exact .inl ⟨_, rfl⟩
      | host known => exact .inr ⟨l, rfl, rfl⟩

/-! ## Looking for a version -/

/-- What looking for a version comes to: its target, or the first thing missing
on the way to it. -/
inductive Finds (l : Ledger H A) (place : Coordinates) : Except Refusal A → Prop where
  | unknownHost (free : l.names (normalizeHostName place.host) = none) :
      Finds l place (.error (.unknownHost (normalizeHostName place.host)))
  | hostIsAlias {owner : String}
      (taken : l.names (normalizeHostName place.host) = some (.aliasOf owner)) :
      Finds l place (.error (.hostIsAlias (normalizeHostName place.host)))
  | unknownApplication {target : H}
      (known : l.names (normalizeHostName place.host) = some (.host target))
      (bare : ∀ version, l.deployed ⟨normalizeHostName place.host, place.path, version⟩ = none) :
      Finds l place (.error (.unknownApplication (normalizeHostName place.host) place.path))
  | unknownVersion {target : H} {version : String}
      (known : l.names (normalizeHostName place.host) = some (.host target))
      (mounted : l.deployed ⟨normalizeHostName place.host, place.path, version⟩ ≠ none)
      (missing : l.deployed (Router.stored place) = none) :
      Finds l place (.error (.unknownVersion (Router.stored place)))
  | found {target : H} {deployed : A}
      (known : l.names (normalizeHostName place.host) = some (.host target))
      (there : l.deployed (Router.stored place) = some deployed) :
      Finds l place (.ok deployed)

/-- A ledger leaves no choice in what is found. -/
theorem Finds.unique {place : Coordinates} {first second : Except Refusal A}
    (one : l.Finds place first) (two : l.Finds place second) : first = second := by
  -- two different answers read a name or a deployment in two ways
  cases one with
  | unknownHost free =>
    cases two with
    | unknownHost => rfl
    | hostIsAlias taken => cases free.symm.trans taken
    | unknownApplication known | unknownVersion known | found known =>
      cases free.symm.trans known
  | hostIsAlias taken =>
    cases two with
    | unknownHost free => cases taken.symm.trans free
    | hostIsAlias => rfl
    | unknownApplication known | unknownVersion known | found known =>
      cases taken.symm.trans known
  | unknownApplication known bare =>
    cases two with
    | unknownHost free => cases known.symm.trans free
    | hostIsAlias taken => cases known.symm.trans taken
    | unknownApplication => rfl
    | unknownVersion _ mounted => exact absurd (bare _) mounted
    | found _ there => cases (bare _).symm.trans there
  | unknownVersion known mounted missing =>
    cases two with
    | unknownHost free => cases known.symm.trans free
    | hostIsAlias taken => cases known.symm.trans taken
    | unknownApplication _ bare => exact absurd (bare _) mounted
    | unknownVersion => rfl
    | found _ there => cases missing.symm.trans there
  | found known there =>
    cases two with
    | unknownHost free => cases known.symm.trans free
    | hostIsAlias taken => cases known.symm.trans taken
    | unknownApplication _ bare => cases there.symm.trans (bare _)
    | unknownVersion _ _ missing => cases there.symm.trans missing
    | found _ there' => exact congrArg _ (Option.some.inj (there.symm.trans there'))

end Ledger

/-! ## Agreement -/

namespace Router

/-- The contents of a router, however they are stored, are those of a ledger. -/
structure Agrees (r : Router H A W) (l : Ledger H A) : Prop where
  /-- The host table lists every name of the ledger once, in ascending order. -/
  ordered : r.entries.names.Pairwise (· < ·)
  names : ∀ name, name ∈ r.entries.names ↔ l.names name ≠ none
  hosts : ∀ name target, l.names name = some (.host target) ↔
    ∃ host, (name, HostEntry.real host) ∈ r.entries.toList ∧ host.target = target
  aliases : ∀ name owner, l.names name = some (.aliasOf owner) ↔
    (name, HostEntry.aliasOf owner) ∈ r.entries.toList
  /-- A host lists each of its aliases once. -/
  listed : ∀ name host, (name, HostEntry.real host) ∈ r.entries.toList →
    host.aliases.Nodup ∧ ∀ other, other ∈ host.aliases ↔ l.names other = some (.aliasOf name)
  /-- A host has the paths at which anything is deployed. -/
  paths : ∀ name host, (name, HostEntry.real host) ∈ r.entries.toList → ∀ path,
    path ∈ host.mounts.applications.names ↔ ∃ version, l.deployed ⟨name, path, version⟩ ≠ none
  /-- An application has the versions that are deployed at its path. -/
  versions : ∀ name host, (name, HostEntry.real host) ∈ r.entries.toList →
    ∀ path application, (path, application) ∈ host.mounts.applications.toList →
      ∀ label target, l.deployed ⟨name, path, label⟩ = some target ↔
        ∃ version, (label, version) ∈ application.versions.toList ∧ version.target = target
  /-- Nothing is deployed but on hosts. -/
  homed : ∀ place, l.deployed place ≠ none → ∃ target, l.names place.host = some (.host target)
  find : ∀ place, l.Finds place ((r.find place).map (·.target))

end Router

end VirtualHosting
