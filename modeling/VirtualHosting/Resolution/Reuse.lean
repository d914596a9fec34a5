/-
# Resolution.Reuse — a resolution that is written over

A reader hands in the resolution of its last request and gets it back for the next
one. It is recycled, and then each step of the lookup writes what it found: the host, the
application, the exact pattern, the wildcard, the extension, the fallback, a handler only
where none is set yet. A handler that has to make way, for a welcome file or a redirect,
is cleared again in place.

The same choices are made as values in `Resolution.Selection` and `Resolution.Resolve`;
`Proofs.Reuse` has that both come to the same.
-/
import VirtualHosting.Resolution.Resolve

namespace VirtualHosting

set_option autoImplicit false

variable {H A W : Type}

namespace HandlerSet

/-- Writes the handler of exactly this path. -/
def writeExact (set : HandlerSet W) (path : String) (result : Resolution H A W) :
    Resolution H A W :=
  match set.exact.entry? path with
  | none => result
  | some (name, h) =>
    if path = "/" then
      { result.setHandler h.target .applicationRoot name "" with
        extraPath := "/"
        applicationPath := "" }
    else result.setHandler h.target .exact name name

/-- Writes the handler of the most specific wildcard that covers the path. -/
def writeWildcard (set : HandlerSet W) (path : String) (result : Resolution H A W) :
    Resolution H A W :=
  match set.wildcard.covering? path set.nesting with
  | none => result
  | some (name, h) =>
    { result.setHandler h.target .path path name with
      extraPath := Text.dropLength name path
      templateMatch := h.flags.template }

/-- Writes the handler of the extension of the path's last segment. -/
def writeExtension (set : HandlerSet W) (path : String) (present : Bool)
    (result : Resolution H A W) : Resolution H A W :=
  match Text.afterLast? '/' path with
  | none => result
  | some file =>
    match Text.afterLast? '.' file with
    | none => result
    | some suffix =>
      match set.extension.find? suffix with
      | none => result
      | some h =>
        if present || !h.flags.resourceOnly then result.setHandler h.target .extension path path
        else result

/-- Writes the fallback handler. -/
def writeFallback (set : HandlerSet W) (path : String) (result : Resolution H A W) :
    Resolution H A W :=
  match set.fallback with
  | none => result
  | some h => result.setHandler h.target .fallback path path

/-- Writes the handler of an exact pattern, else that of a wildcard. A template handler
takes the whole path of a file and is cleared again for a directory; the flag says that
it was. -/
def writePath (set : HandlerSet W) (path : String) (directory : Bool)
    (result : Resolution H A W) : Resolution H A W × Bool :=
  let result := set.writeExact path result
  if result.handler.isSome then (result, false)
  else
    let result := set.writeWildcard path result
    if result.handler.isSome && result.templateMatch then
      if directory then (result.clearHandler, true)
      else ({ result with handlerPath := path, extraPath := "" }, false)
    else (result, false)

/-- Writes the handler of the first welcome file whose extension has one that does
without a file. -/
def writeMadeUp (set : HandlerSet W) (path : String) :
    List String → Resolution H A W → Resolution H A W
  | [], result => result
  | name :: rest, result =>
    let result := set.writeExtension (path ++ name) false result
    if result.handler.isSome then result else set.writeMadeUp path rest result

end HandlerSet

namespace Version

/-- Writes what one welcome file leads to. -/
def writeWelcomeFile (v : Version A W) (candidate : String) (result : Resolution H A W) :
    Logged (Resolution H A W) :=
  let result := v.handlers.writeExact candidate result
  let result :=
    if result.handler.isNone then v.handlers.writeWildcard candidate result else result
  if result.handler.isSome then pure result
  else do
    if ← v.hasFile candidate then
      let result := v.handlers.writeExtension candidate true result
      return if result.handler.isNone then v.handlers.writeFallback candidate result else result
    else return result

/-- Writes what the first welcome file that leads anywhere leads to. -/
def writeFirstWelcome (v : Version A W) (path : String) :
    List String → Resolution H A W → Logged (Resolution H A W)
  | [], result => pure result
  | name :: rest, result => do
    let result ← v.writeWelcomeFile (path ++ name) result
    if result.handler.isSome then return result else v.writeFirstWelcome path rest result

/-- Writes what the welcome files lead to for the directory `path`. -/
def writeWelcome (v : Version A W) (path : String) (result : Resolution H A W) :
    Logged (Resolution H A W) := do
  let result ← v.writeFirstWelcome path v.settings.welcomeFiles result
  return if result.handler.isSome then result
    else v.handlers.writeMadeUp path v.settings.welcomeFiles result

/-- Writes the fallback and, if the path turns out to be a directory, clears it again
for a redirect. -/
def writeLastResort (v : Version A W) (uri path : String) (directory : Bool)
    (result : Resolution H A W) : Logged (Resolution H A W) :=
  let result := v.handlers.writeFallback path result
  if !directory && v.settings.directoryRedirect then do
    if ← v.hasDirectory (if path = "" then "/" else path) then
      return { result.clearHandler with redirectPath := some (uri ++ "/") }
    else return result
  else pure result

/-- Writes, where no handler is set yet, what is tried after exact patterns and
wildcards. `deferred` says that a template handler was cleared for the welcome files. -/
def writeFurther (v : Version A W) (uri path : String) (directory deferred : Bool)
    (result : Resolution H A W) : Logged (Resolution H A W) :=
  if result.handler.isNone && path = "" && v.settings.rootRedirect then
    pure { result with redirectPath := some (uri ++ "/") }
  else do
    let result :=
      if result.handler.isNone && !deferred then v.handlers.writeExtension path true result
      else result
    let result ←
      if result.handler.isNone && (deferred || directory) then v.writeWelcome path result
      else pure result
    if result.handler.isNone && !deferred then v.writeLastResort uri path directory result
    else return result

/-- Writes the handler for the path below the mount. -/
def writeBelow (v : Version A W) (uri path : String) (directory : Bool)
    (result : Resolution H A W) : Logged (Resolution H A W) :=
  let (result, deferred) := v.handlers.writePath path directory result
  v.writeFurther uri path directory deferred result

/-- Writes the handler for a request path. -/
def writeHandler (v : Version A W) (uri : String) (result : Resolution H A W) :
    Logged (Resolution H A W) :=
  match Text.strip? v.path uri with
  | none => pure result
  | some path => v.writeBelow uri path (Text.endsWith "/" uri) result

end Version

namespace Router

/-- Resolves a request path among the applications of a host. -/
def resolveOnInto (mounts : Mounts A W) (result : Resolution H A W) (hostName uri : String)
    (requested : Option String) : Logged (Resolution H A W) :=
  match mounts.select? uri with
  | none => do
    Logged.tell (.noApplicationMatched hostName uri)
    return result
  | some (path, application) =>
    let result := { result with applicationPath := result.applicationPath ++ path }
    let result :=
      if application.versions.size > 1 then
        { result with
          versions := result.versions ++ application.versions.values.map (·.target) }
      else result
    match servingVersion? application.versions requested with
    | none => pure result
    | some (label, version) =>
      let result :=
        { result with application := some version.target, slashCount := version.slashCount }
      if version.paused then do
        Logged.tell (.pausedVersionSelected path label)
        return result
      else version.writeHandler uri result

/-- Resolves a request into a resolution that was used before. -/
def resolveInto (r : Router H A W) (result : Resolution H A W) (host uri : String)
    (requested : Option String) : Logged (Resolution H A W) :=
  let result := result.recycle
  match if host = "" then r.defaultHost else some host with
  | none => pure result
  | some name =>
    match (r.servingEntry? name).bind fun e => r.hostBehind? e.2 with
    | none => do
      Logged.tell (.noHostMatched name)
      return result
    | some serving =>
      resolveOnInto serving.mounts { result with host := some serving.target } name uri requested

/-- Resolves a request path inside the application deployed last for a target, into a
resolution that was used before. -/
def resolveWithinInto (r : Router H A W) (result : Resolution H A W) (target : A)
    (uri : String) : Logged (Resolution H A W) :=
  let result := result.recycle
  match (r.index.place? target).bind r.version? with
  | none => pure result
  | some version =>
    version.writeHandler uri
      { result with
        application := some version.target
        slashCount := version.slashCount
        applicationPath := result.applicationPath ++ version.path }

end Router

end VirtualHosting
