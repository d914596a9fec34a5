/-
# Resolution.Resolve — from a request to its handler

A request names a host, a path and perhaps a version. The host is found by name
without regard to letter case, then by the part from its first dot on, then as
the default host; the application by the most specific mount; the version by its
label, or else the last. A lookup never fails: it leaves unset what it did not
reach.

What a lookup comes to is said here as a new value. `Resolution.Reuse` writes it over
the resolution of an earlier request.
-/
import VirtualHosting.Resolution.Selection

namespace VirtualHosting.Router

set_option autoImplicit false

variable {H A W : Type}

/-- The entry for a host name: by that name, else by its part from the first dot
on, under which a name such as `*.example.com` is stored. -/
def entryFor? (r : Router H A W) (name : String) : Option (String × HostEntry H A W) :=
  r.entries.entryFolded? name <|> (Text.fromFirst? '.' name).bind r.entries.entryFolded?

/-- The entry that serves requests for a host name. -/
def servingEntry? (r : Router H A W) (name : String) : Option (String × HostEntry H A W) :=
  r.entryFor? name <|> r.defaultHost.bind r.entries.entry?

/-- The version that serves a request: the one under the requested label if there
are several and it is one of them, else the last. -/
def servingVersion? (versions : Table (Version A W)) (requested : Option String) :
    Option (String × Version A W) :=
  (if versions.size > 1 then requested.bind versions.entry? else none) <|> versions.last?

/-- Resolves a request path among the applications of a host. -/
def resolveOn (mounts : Mounts A W) (host : H) (hostName uri : String)
    (requested : Option String) : Logged (Resolution H A W) := do
  match mounts.select? uri with
  | none =>
    Logged.tell (.noApplicationMatched hostName uri)
    return { host := some host }
  | some (path, application) =>
    let reached : Resolution H A W :=
      { host := some host, applicationPath := path
        versions := if application.versions.size > 1
          then application.versions.values.map (·.target) else [] }
    match servingVersion? application.versions requested with
    | none => return reached
    | some (label, version) =>
      let reached :=
        { reached with application := some version.target, slashCount := version.slashCount }
      if version.paused then
        Logged.tell (.pausedVersionSelected path label)
        return reached
      else return reached.complete uri (← version.select uri)

/-- Resolves a request. An empty host name stands for the default host. -/
def resolve (r : Router H A W) (host uri : String) (requested : Option String) :
    Logged (Resolution H A W) :=
  match if host = "" then r.defaultHost else some host with
  | none => pure .unresolved
  | some name =>
    match (r.servingEntry? name).bind fun e => r.hostBehind? e.2 with
    | none => do
      Logged.tell (.noHostMatched name)
      return .unresolved
    | some serving => resolveOn serving.mounts serving.target name uri requested

/-- Resolves a request path inside the application deployed last for a target.
Whoever asks holds the application already, so a pause does not matter. -/
def resolveWithin (r : Router H A W) (target : A) (uri : String) : Logged (Resolution H A W) :=
  match (r.index.place? target).bind r.version? with
  | none => pure .unresolved
  | some version => do
    let reached : Resolution H A W :=
      { application := some version.target, slashCount := version.slashCount
        applicationPath := version.path }
    return reached.complete uri (← version.select uri)

end VirtualHosting.Router
