/-
# Proofs.Edit — the few ways a router changes

Whatever a call is, it changes a router by a handful of edits: a host or an
alias enters or leaves the table, a version is published or withdrawn, or one
deployed version is revised. `Router.Edit` lists them with all that holds when
they are made. Every call is a sequence of them, so an invariant of all
reachable routers has one case per edit and looks at no call.
-/
import Mathlib.Logic.Relation
import VirtualHosting.Proofs.HandlerSet
import VirtualHosting.Proofs.Router

namespace VirtualHosting

set_option autoImplicit false

variable {H A W : Type}

/-- A change of a version that is deployed already. -/
inductive Version.Revision [DecidableEq W] : Version A W → Version A W → Prop where
  | pause (v : Version A W) : Revision v v.pause
  | handlers {v : Version A W} {next : HandlerSet W} (step : v.handlers.Step next) :
      Revision v (v.withHandlers next)
  | addWelcome {v : Version A W} {name : String} (welcome : Router.isWelcomeName name = true)
      (fresh : name ∉ v.settings.welcomeFiles) : Revision v (v.addWelcome name)
  | removeWelcome {v : Version A W} {name : String}
      (listed : name ∈ v.settings.welcomeFiles) : Revision v (v.removeWelcome name)
  | clearWelcome (v : Version A W) : Revision v (v.withWelcomeFiles [])

namespace Version

variable [DecidableEq W] {v next : Version A W}

theorem Revision.target_eq (revision : v.Revision next) : next.target = v.target := by
  cases revision <;> rfl

/-- No revision lifts a pause. -/
theorem Revision.paused (revision : v.Revision next) (paused : v.paused = true) :
    next.paused = true := by
  cases revision with
  | pause => rfl
  | handlers | addWelcome | removeWelcome | clearWelcome => exact paused

end Version

namespace Router

variable [DecidableEq A] [DecidableEq W] {r next : Router H A W}

/-- One change of a router, with what holds when it is made. -/
inductive Edit : Router H A W → Router H A W → Prop where
  | setDefault (r : Router H A W) (name : Option String) :
      Edit r { r with defaultHost := name.map normalizeHostName }
  | enterHost {r : Router H A W} {name : String} {target : H}
      {entries : Table (HostEntry H A W)}
      (inserted : r.entries.insert? (normalizeHostName name) (.real { target }) = some entries) :
      Edit r { r with entries }
  | enterAlias {r : Router H A W} {name host : String} {owner : Host H A W}
      {entries : Table (HostEntry H A W)} (owned : r.host? host = some owner)
      (inserted : r.entries.insert? (normalizeHostName name) (.aliasOf host) = some entries) :
      Edit r (({ r with entries } : Router H A W).modifyHost host
        fun h => { h with aliases := h.aliases ++ [normalizeHostName name] })
  | dropHost {r : Router H A W} {name : String} {host : Host H A W}
      (known : r.host? name = some host) :
      Edit r { r with
        entries := r.entries.filter fun e => !e.2.belongsTo name e.1
        index := r.index.forgetHost name }
  | dropAlias {r : Router H A W} {name host : String} {entries : Table (HostEntry H A W)}
      (known : r.entries.find? name = some (.aliasOf host))
      (erased : r.entries.erase? name = some entries) :
      Edit r (({ r with entries } : Router H A W).modifyHost host
        fun h => { h with aliases := h.aliases.erase name })
  | deploy {r : Router H A W} {name : String} {host : Host H A W}
      {deployment : Deployment A W} {handlers : HandlerSet W} {published : Mounts A W}
      (known : r.host? name = some host) (gathered : handlers.Reachable)
      (done : publish host.mounts deployment.path deployment.version
        (deployment.publication handlers) = (.added, published)) :
      Edit r { r.modifyMounts name fun _ => published with
        index := r.index.record deployment.target
          ⟨name, deployment.path, deployment.version⟩ }
  | undeploy {r : Router H A W} {place : Coordinates} {host : Host H A W}
      {application : Application A W} {removed : Version A W}
      {remaining : Table (Version A W)} (known : r.host? place.host = some host)
      (mounted : host.mounts.find? place.path = some application)
      (deployed : application.versions.find? place.version = some removed)
      (erased : application.versions.erase? place.version = some remaining) :
      Edit r { r.modifyMounts place.host fun mounts =>
          if remaining.isEmpty then (mounts.remove? place.path).getD mounts
          else mounts.modifyVersions place.path fun _ => remaining with
        index := r.index.forget removed.target place }
  | revise {r : Router H A W} {place : Coordinates} {version : Version A W}
      {f : Version A W → Version A W} (deployed : r.find place = .ok version)
      (revision : version.Revision (f version)) :
      Edit r (r.modifyVersion place f)

/-- One edit or none. -/
abbrev MayEdit : Router H A W → Router H A W → Prop :=
  Relation.ReflGen Edit

/-- Any number of edits. -/
abbrev Edits : Router H A W → Router H A W → Prop :=
  Relation.ReflTransGen Edit

/-- One version revised or nothing changed. -/
inductive MayRevise : Router H A W → Router H A W → Prop where
  | refl (r : Router H A W) : MayRevise r r
  | revise {r : Router H A W} {place : Coordinates} {version : Version A W}
      {f : Version A W → Version A W} (deployed : r.find place = .ok version)
      (revision : version.Revision (f version)) : MayRevise r (r.modifyVersion place f)

theorem MayRevise.mayEdit (may : MayRevise r next) : MayEdit r next := by
  cases may with
  | refl => exact .refl
  | revise deployed revision => exact .single (.revise deployed revision)

end Router

end VirtualHosting
