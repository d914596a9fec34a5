/-
# Router.Outline — the routing table as diagnostics show it

Each part of the table has an outline that names what an operator looks for and
leaves out targets, which are opaque. A host shows the applications it serves,
and an alias those of its host.
-/
import VirtualHosting.Text.Outline
import VirtualHosting.Resolution

namespace VirtualHosting

set_option autoImplicit false

open Text (Outline)

variable {H A W : Type}

def HandlerFlags.outline (flags : HandlerFlags) : Outline :=
  .record "HandlerFlags"
    [("template", .bool flags.template), ("resource_only", .bool flags.resourceOnly)] true

/-- A handler under the name it is stored by. -/
def Handler.outline (name : String) (h : Handler W) : Outline :=
  .record "MappedHandler" [("name", .text name), ("flags", h.flags.outline)] false

def HandlerSet.outline (set : HandlerSet W) : Outline :=
  .record "HandlerSet"
    [("exact", .list (set.exact.names.map .text)),
      ("wildcard", .list (set.wildcard.names.map .text)),
      ("extension", .list (set.extension.names.map .text)),
      ("default", .bool set.fallback.isSome),
      ("nesting", .nat set.nesting)] true

/-- A version under its label. -/
def Version.outline (label : String) (v : Version A W) : Outline :=
  .record "ApplicationVersion"
    [("path", .text v.path), ("version", .text label), ("paused", .bool v.paused),
      ("handlers", v.handlers.outline)] false

/-- An application under its mount path. -/
def Application.outline (path : String) (application : Application A W) : Outline :=
  .record "MappedApplication"
    [("path", .text path),
      ("versions", .list (application.versions.toList.map fun (label, v) => v.outline label))] true

def Mounts.outline (mounts : Mounts A W) : Outline :=
  .record "ApplicationList"
    [("applications", .list (mounts.applications.toList.map fun (path, a) => a.outline path)),
      ("nesting", .nat mounts.nesting)] true

namespace Router

/-- An entry of the host table with the applications it serves. -/
def entryOutline (r : Router H A W) (name : String) (entry : HostEntry H A W) : Outline :=
  let mounts := ((r.hostBehind? entry).map (·.mounts)).getD .empty
  .record "MappedHost"
    [("name", .text name), ("alias", .bool entry.isAlias), ("applications", mounts.outline)] false

def outline (r : Router H A W) : Outline :=
  .record "Mapper"
    [("default_host", .option (r.defaultHost.map .text)),
      ("hosts", .list (r.entries.toList.map fun (name, entry) => r.entryOutline name entry))] false

end Router

/-- The word for a match kind. -/
def MatchKind.name : MatchKind → String
  | applicationRoot => "ApplicationRoot"
  | exact => "Exact"
  | path => "Path"
  | extension => "Extension"
  | fallback => "Default"

/-- The lower-case word for a match kind. -/
def MatchKind.label : MatchKind → String
  | applicationRoot => "application_root"
  | exact => "exact"
  | path => "path"
  | extension => "extension"
  | fallback => "default"

/-- A resolution with targets reduced to whether there is one. -/
def Resolution.outline (r : Resolution H A W) : Outline :=
  .record "MappingResult"
    [("host", .bool r.host.isSome), ("application", .bool r.application.isSome),
      ("versions", .nat r.versions.length), ("handler", .bool r.handler.isSome),
      ("match_kind", .option (r.matchKind.map fun kind => .atom kind.name)),
      ("application_path", .text r.applicationPath), ("request_path", .text r.requestPath),
      ("handler_path", .text r.handlerPath), ("extra_path", .text r.extraPath),
      ("redirect_path", .option (r.redirectPath.map .text))] true

end VirtualHosting
