/-
# Resolution.Selection — which handler of a version answers

The path below the mount is matched in a fixed order: an exact pattern, a
wildcard, an extension, the welcome files of a directory, the fallback. A
template handler that a wildcard chose for a directory stands back for the
welcome files, and nothing but a welcome file is tried then. A bare mount path
and a path that names a directory may be redirected instead.

* `select_of_elsewhere`: a version selects nothing for a request path that does
  not start with its mount path.
-/
import VirtualHosting.Resolution

namespace VirtualHosting

set_option autoImplicit false

variable {A W : Type}

namespace HandlerSet

/-- The handler of exactly this path. The application root consumes nothing and
leaves a slash over, so that the parts still add up. -/
def exactChoice? (set : HandlerSet W) (path : String) : Option (Choice W) :=
  (set.exact.entry? path).map fun (name, h) =>
    if path = "/" then
      { handler := h.target, kind := .applicationRoot, requestPath := name, handlerPath := "",
        extraPath := "/" }
    else { handler := h.target, kind := .exact, requestPath := name, handlerPath := name }

/-- The handler of the most specific wildcard that covers the path. -/
def wildcardChoice? (set : HandlerSet W) (path : String) : Option (Choice W) :=
  (set.wildcard.covering? path set.nesting).map fun (name, h) =>
    { handler := h.target, kind := .path, requestPath := path, handlerPath := name,
      extraPath := Text.dropLength name path, template := h.flags.template }

/-- The handler of the extension of the path's last segment. Where no file is
known to exist, only a handler that does without one is taken. -/
def extensionChoice? (set : HandlerSet W) (path : String) (present : Bool) : Option (Choice W) := do
  let file ← Text.afterLast? '/' path
  let suffix ← Text.afterLast? '.' file
  let h ← set.extension.find? suffix
  if present || !h.flags.resourceOnly then
    some { handler := h.target, kind := .extension, requestPath := path, handlerPath := path }
  else none

/-- The fallback handler. -/
def fallbackChoice? (set : HandlerSet W) (path : String) : Option (Choice W) :=
  set.fallback.map fun h =>
    { handler := h.target, kind := .fallback, requestPath := path, handlerPath := path }

end HandlerSet

namespace Version

/-- Whether the version knows that a file lies behind the path. -/
def hasFile (v : Version A W) (path : String) : Logged Bool :=
  match v.settings.resources with
  | none => pure false
  | some probe => do return (← probe.ask path) = .file

/-- Whether the version knows that a directory lies behind the path. -/
def hasDirectory (v : Version A W) (path : String) : Logged Bool :=
  match v.settings.resources with
  | none => pure false
  | some probe => do return (← probe.ask path) = .directory

/-- What one welcome file leads to: an exact pattern, a wildcard or, if the file
exists, its extension or the fallback. -/
def welcomeChoice (v : Version A W) (candidate : String) : Logged (Option (Choice W)) :=
  match v.handlers.exactChoice? candidate <|> v.handlers.wildcardChoice? candidate with
  | some choice => pure (some choice)
  | none => do
    if ← v.hasFile candidate then
      return v.handlers.extensionChoice? candidate true <|> v.handlers.fallbackChoice? candidate
    else return none

/-- What the first welcome file that leads anywhere leads to. -/
def firstWelcome (v : Version A W) (path : String) : List String → Logged (Option (Choice W))
  | [] => pure none
  | name :: rest => do
    match ← v.welcomeChoice (path ++ name) with
    | some choice => return some choice
    | none => v.firstWelcome path rest

/-- What the welcome files lead to for the directory `path`. Those that are
matched or exist go first; then an extension alone will do, for handlers that
make up what is not there. -/
def welcome (v : Version A W) (path : String) : Logged (Option (Choice W)) := do
  match ← v.firstWelcome path v.settings.welcomeFiles with
  | some choice => return some choice
  | none =>
    return v.settings.welcomeFiles.findSome? fun name =>
      v.handlers.extensionChoice? (path ++ name) false

/-- A template handler that a wildcard chose for a file takes the whole path. -/
def settle (choice : Choice W) : Choice W :=
  if choice.template then { choice with handlerPath := choice.requestPath, extraPath := "" }
  else choice

/-- What is left once nothing matched: the fallback, or a redirect if the path
turns out to be a directory. -/
def lastResort (v : Version A W) (path : String) (directory : Bool) : Logged (Selection W) := do
  let fallback := match v.handlers.fallbackChoice? path with
    | some choice => Selection.handler choice
    | none => .none
  if !directory && v.settings.directoryRedirect then
    if ← v.hasDirectory (if path = "" then "/" else path) then return .redirect
    else return fallback
  else return fallback

/-- Selects among the patterns that are tried after exact ones and wildcards.
`deferred` says that a template handler stood back for the welcome files. -/
def selectFurther (v : Version A W) (path : String) (directory deferred : Bool) :
    Logged (Selection W) :=
  if path = "" && v.settings.rootRedirect then pure .redirect
  else match if deferred then none else v.handlers.extensionChoice? path true with
    | some choice => pure (.handler choice)
    | none => do
      match ← (if directory then v.welcome path else pure none) with
      | some choice => return .handler choice
      | none => if deferred then return .none else v.lastResort path directory

/-- Selects a handler for the path below the mount. -/
def selectBelow (v : Version A W) (path : String) (directory : Bool) : Logged (Selection W) :=
  match v.handlers.exactChoice? path with
  | some choice => pure (.handler choice)
  | none =>
    match v.handlers.wildcardChoice? path with
    | none => v.selectFurther path directory false
    | some choice =>
      if choice.template && directory then v.selectFurther path directory true
      else pure (.handler (settle choice))

/-- Selects a handler for a request path. -/
def select (v : Version A W) (uri : String) : Logged (Selection W) :=
  match Text.strip? v.path uri with
  | none => pure .none
  | some path => v.selectBelow path (Text.endsWith "/" uri)

theorem select_of_elsewhere (v : Version A W) (uri : String)
    (elsewhere : Text.strip? v.path uri = none) : v.select uri = pure .none := by
  simp [select, elsewhere]

end Version

end VirtualHosting
