/-
# Router.Hosts — registering hosts and aliases

A name stands for one host or alias. Registering it again for the same target is
no change; for another it is refused, and the refusal is reported. A host leaves
together with its aliases and everything deployed on it.

* `addAliases_nil`: a host without aliases is registered by itself.
-/
import VirtualHosting.Router

namespace VirtualHosting.Router

set_option autoImplicit false

variable {H A W : Type}

/-- Sets the host that stands in for unknown ones. -/
def setDefaultHost (r : Router H A W) (name : Option String) : Logged (Router H A W) := do
  let stored := name.map normalizeHostName
  Logged.tell (.defaultHostSet stored)
  return { r with defaultHost := stored }

/-- Registers `name` as an alias of the host stored as `host`, both in stored form. -/
def insertAlias (r : Router H A W) (host name : String) :
    Logged (Registration × Router H A W) :=
  match r.entries.insert? name (.aliasOf host) with
  | some entries => do
    Logged.tell (.aliasRegistered name host)
    let next := { r with entries }
    return (.added, next.modifyHost host fun h => { h with aliases := h.aliases ++ [name] })
  | none =>
    let taken := r.entries.find? name
    if taken.any (·.belongsTo host name) then do
      Logged.tell (.aliasAlreadyRegistered name host)
      return (.unchanged, r)
    else do
      Logged.tell (.aliasRefused name host (taken.map (·.realName name)))
      return (.rejected, r)

/-- Registers each alias in turn for the host stored as `host`. Those that are
taken are passed over. -/
def addAliases (r : Router H A W) (host : String) : List String → Logged (Router H A W)
  | [] => pure r
  | name :: rest => do
    let (_, next) ← r.insertAlias host (normalizeHostName name)
    next.addAliases host rest

/-- Registers a host and its aliases. A host that is there already for the same
target gains the new aliases; one that is there for another gains nothing. -/
def addHost [DecidableEq H] (r : Router H A W) (name : String) (aliases : List String)
    (target : H) : Logged (Registration × Router H A W) :=
  let name := normalizeHostName name
  let refuse (existing : String) : Logged (Registration × Router H A W) := do
    Logged.tell (.hostRefused name existing)
    return (.rejected, r)
  match r.entries.find? name with
  | some (.aliasOf host) => refuse host
  | some (.real host) =>
    if host.target = target then do
      Logged.tell (.hostAlreadyRegistered name)
      return (.unchanged, ← r.addAliases name aliases)
    else refuse name
  | none => do
    let next := match r.entries.insert? name (.real { target }) with
      | some entries => { r with entries }
      | none => r
    Logged.tell (.hostRegistered name)
    return (.added, ← next.addAliases name aliases)

/-- Removes a host, its aliases and its versions. Aliases are not hosts. -/
def removeHost (r : Router H A W) (name : String) : Logged (Bool × Router H A W) :=
  let name := normalizeHostName name
  match r.host? name with
  | none => pure (false, r)
  | some _ => do
    Logged.tell (.hostRemoved name)
    return (true,
      { r with
        entries := r.entries.filter fun e => !e.2.belongsTo name e.1
        index := r.index.forgetHost name })

/-- Registers another name for a host, which may itself be named by an alias. -/
def addAlias (r : Router H A W) (host name : String) :
    Logged (Except Refusal Registration × Router H A W) :=
  let host := normalizeHostName host
  match r.entries.find? host with
  | none => pure (.error (.unknownHost host), r)
  | some entry => do
    let (outcome, next) ← r.insertAlias (entry.realName host) (normalizeHostName name)
    return (.ok outcome, next)

/-- Removes an alias. Hosts are not aliases. -/
def removeAlias (r : Router H A W) (name : String) : Logged (Bool × Router H A W) :=
  let name := normalizeHostName name
  match r.entries.find? name with
  | some (.aliasOf host) =>
    match r.entries.erase? name with
    | none => pure (false, r)
    | some entries => do
      Logged.tell (.aliasRemoved name)
      let next := { r with entries }
      return (true, next.modifyHost host fun h => { h with aliases := h.aliases.erase name })
  | _ => pure (false, r)

@[simp]
theorem addAliases_nil (r : Router H A W) (host : String) : r.addAliases host [] = pure r := rfl

end VirtualHosting.Router
