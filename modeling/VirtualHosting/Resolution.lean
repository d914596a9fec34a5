/-
# Resolution — what a request was mapped to

A `Resolution` starts out with every field unset and is filled in as far as the
request gets: host, then application, then handler or redirect. The request path
is what the handler sees; the part its pattern claims is the handler path, the
remainder the extra path.

Whoever asks may hand in a resolution to be written over. It is recycled first; then
a handler is set and, if it turns out not to be the one, cleared. Neither of the two
touches every field.

* `recycle_eq_unresolved`: recycling leaves nothing behind.
-/
import VirtualHosting.Router

namespace VirtualHosting

set_option autoImplicit false

/-- How a handler was chosen. -/
inductive MatchKind where
  | applicationRoot
  | exact
  | path
  | extension
  | fallback
  deriving DecidableEq, Repr

/-- What a request was mapped to. -/
structure Resolution (H A W : Type) where
  host : Option H := none
  application : Option A := none
  /-- The targets of all versions, when there is more than one. -/
  versions : List A := []
  slashCount : Nat := 0
  handler : Option W := none
  /-- A wildcard led to a template handler. -/
  templateMatch : Bool := false
  matchKind : Option MatchKind := none
  applicationPath : String := ""
  requestPath : String := ""
  handlerPath : String := ""
  extraPath : String := ""
  /-- Where to send the client instead of to a handler. -/
  redirectPath : Option String := none
  deriving DecidableEq, Repr

/-- A handler, how it was chosen and how it splits the path. -/
structure Choice (W : Type) where
  handler : W
  kind : MatchKind
  requestPath : String
  handlerPath : String
  extraPath : String := ""
  template : Bool := false
  deriving DecidableEq, Repr

/-- What handler selection comes to. -/
inductive Selection (W : Type) where
  /-- No handler. -/
  | none
  /-- This handler. -/
  | handler (choice : Choice W)
  /-- A redirect to the same path and a slash. -/
  | redirect
  deriving DecidableEq, Repr

namespace Resolution

variable {H A W : Type}

/-- Nothing resolved. -/
def unresolved : Resolution H A W := {}

def isRedirect (r : Resolution H A W) : Bool :=
  r.redirectPath.isSome

/-- Fills in what handler selection came to. A handler for the application root
sees an empty application path. -/
def complete (r : Resolution H A W) (uri : String) : Selection W → Resolution H A W
  | .none => r
  | .redirect => { r with redirectPath := some (uri ++ "/") }
  | .handler choice =>
    { r with
      handler := some choice.handler
      templateMatch := choice.template
      matchKind := some choice.kind
      applicationPath := if choice.kind = .applicationRoot then "" else r.applicationPath
      requestPath := choice.requestPath
      handlerPath := choice.handlerPath
      extraPath := choice.extraPath }

/-! ## Writing over a resolution -/

/-- Clears every field. -/
def recycle (r : Resolution H A W) : Resolution H A W :=
  { r with
    host := none
    application := none
    versions := []
    slashCount := 0
    handler := none
    templateMatch := false
    matchKind := none
    applicationPath := ""
    requestPath := ""
    handlerPath := ""
    extraPath := ""
    redirectPath := none }

/-- Forgets the handler, but neither host nor application. The application path, once
taken away for the application root, is not brought back, and a redirect stays. -/
def clearHandler (r : Resolution H A W) : Resolution H A W :=
  { r with
    handler := none
    templateMatch := false
    matchKind := none
    requestPath := ""
    handlerPath := ""
    extraPath := "" }

/-- Sets the handler. The extra path and the mark of a template are left to whoever
chose it. -/
def setHandler (r : Resolution H A W) (handler : W) (kind : MatchKind)
    (requestPath handlerPath : String) : Resolution H A W :=
  { r with handler := some handler, matchKind := some kind, requestPath, handlerPath }

theorem recycle_eq_unresolved (r : Resolution H A W) : r.recycle = unresolved := rfl

end Resolution

end VirtualHosting
