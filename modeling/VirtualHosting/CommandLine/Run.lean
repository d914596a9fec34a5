/-
# CommandLine.Run — from arguments to an answer

A run reads its arguments, loads the descriptor they name, lets them override how
to log, builds the routing table and then either summarises it or resolves a URL
against it. It is a function of what its files hold and of what the paths of the
file system name. Nothing is logged before the descriptor is loaded, because the
descriptor says how.

* `run_unreadable`: a run whose descriptor cannot be read logs nothing.
-/
import VirtualHosting.CommandLine.Help
import VirtualHosting.CommandLine.LogFilter
import VirtualHosting.Descriptor.Deployment
import VirtualHosting.Descriptor.Load
import VirtualHosting.Resolution.Resolve
import VirtualHosting.Router.Outline
import VirtualHosting.Text.Json
import VirtualHosting.Url

namespace VirtualHosting.CommandLine

set_option autoImplicit false

open Text (Json)

/-- How a run ends. -/
inductive Ending where
  /-- With this output. -/
  | done (output : String)
  /-- With this message and no output. -/
  | failed (message : String)
  /-- The arguments were not understood. -/
  | misused
  /-- The run broke off without a message of its own. -/
  | brokenOff
  deriving DecidableEq, Repr

/-- The exit code that tells how a run ended. -/
def Ending.code : Ending → Nat
  | done _ => 0
  | failed _ => 1
  | misused => 2
  | brokenOff => 101

/-- How a run ends and what it logs on the way. -/
structure Report where
  ending : Ending
  format : LogFormat := .pretty
  /-- The events that passed the filter. -/
  log : List Event := []

/-! ## Answers -/

/-- The versions of an application with their states. -/
def versionsJson (application : Application Label Label) : Json :=
  .list (application.versions.toList.map fun (label, version) =>
    .record [("paused", .bool version.paused), ("version", .text label)])

/-- What is mounted on a host. -/
def mountsJson (mounts : Mounts Label Label) : Json :=
  .list (mounts.applications.toList.map fun (path, application) =>
    .record [("path", .text path), ("versions", versionsJson application)])

/-- The hosts of a routing table, aliases shown with their hosts. -/
def hostsJson (r : LabelledRouter) : Json :=
  .list (r.entries.toList.filterMap fun (name, entry) =>
    match entry with
    | .aliasOf _ => none
    | .real host => some (.record [("aliases", Json.texts host.aliases),
        ("applications", mountsJson host.mounts), ("name", .text name)]))

/-- What a descriptor deploys. -/
def summaryJson (d : Descriptor) (r : LabelledRouter) : Json :=
  .record [("default_host", Json.option d.defaultHost), ("hosts", hostsJson r),
    ("valid", .bool true)]

/-- What a request was mapped to. -/
def resolutionJson (r : Resolution Label Label Label) : Json :=
  .record
    [("host", Json.option (r.host.map (·.text))),
      ("application", Json.option (r.application.map (·.text))),
      ("versions", Json.texts (r.versions.map (·.text))),
      ("handler", Json.option (r.handler.map (·.text))),
      ("match_kind", Json.option (r.matchKind.map (·.label))),
      ("template_match", .bool r.templateMatch),
      ("application_path", .text r.applicationPath),
      ("request_path", .text r.requestPath),
      ("handler_path", .text r.handlerPath),
      ("extra_path", .text r.extraPath),
      ("redirect", Json.option r.redirectPath)]

/-- An answer as it is printed. -/
def printed (answer : Json) : String :=
  answer.pretty ++ "\n"

/-! ## Running -/

/-- The descriptor with the logging that was asked for. -/
def overridden (i : Invocation) (d : Descriptor) : Descriptor :=
  { d with logging :=
    { level := i.logLevel.getD d.logging.level
      format := i.logFormat.getD d.logging.format } }

/-- Resolves a URL. -/
def resolveUrl (r : LabelledRouter) (text : String) (version : Option String) : Logged Ending :=
  match Url.parse text with
  | .error fault => pure (.failed fault.message)
  | .ok url => do
    let found ← r.resolve url.hostText url.path version
    Logged.tell (.resolved url.text found.outline.line)
    return .done (printed (resolutionJson found))

/-- Carries a task out on a descriptor. -/
def perform (names : String → ResourceKind) (i : Invocation) (d : Descriptor) :
    Logged Ending := do
  Logged.tell (.descriptorLoaded i.config d.hosts.length d.applications.length)
  match ← d.build names with
  | .error refusal => return .failed refusal.message
  | .ok r =>
    match i.task with
    | .check => return .done (printed (summaryJson d r))
    | .resolve url version => resolveUrl r url version

/-- The filter that the environment asks for, or else the descriptor. -/
def filterFor (environment : Option String) (d : Descriptor) :
    Except Directive.Misreading LogFilter :=
  match environment.map LogFilter.parseAll with
  | some (.ok filter) => .ok filter
  | some (.error .torn) => .error .torn
  | some (.error .unreadable) | none => LogFilter.parse d.logging.level

/-- Carries an invocation out on what its descriptor was loaded as. -/
def report (names : String → ResourceKind) (environment : Option String) (i : Invocation) :
    Except Descriptor.LoadFault Descriptor → Report
  | .error fault => { ending := .failed fault.message }
  | .ok d =>
    let d := overridden i d
    match filterFor environment d with
    | .error _ => { ending := .brokenOff, format := d.logging.format }
    | .ok filter =>
      let outcome := perform names i d
      { ending := outcome.value
        format := d.logging.format
        log := outcome.log.filter filter.admits }

/-- What a command line that leads to no task ends in. -/
def Stop.ending : Stop → Ending
  | usage => .misused
  | help topic => .done topic.text

/-- A run of the program. `content` answers what reading a file comes to, `names`
what a path of the file system names, and `environment` is the filter set from
outside. -/
def run (content : String → Except Descriptor.FileFault ByteArray)
    (names : String → ResourceKind) (environment : Option String) (args : List String) : Report :=
  match read args with
  | .error stop => { ending := stop.ending }
  | .ok i => report names environment i (Descriptor.load (content i.config))

/-! ## Around a run -/

/-- The places of the file system that resolving a path may ask about. -/
def placesAsked (d : Descriptor) (path : String) : List String :=
  d.applications.flatMap fun (_, app) =>
    match app.documentRoot, Text.strip? app.path path with
    | some root, some below =>
      ("/" :: below :: app.welcomeFiles.map (below ++ ·)).filterMap (DocumentRoot.locate? root)
    | _, _ => []

/-- An event as a line of the log. -/
def logLine (format : LogFormat) (e : Event) : String :=
  match format with
  | .json =>
    Json.compact (.record [("level", .text e.level.name),
      ("fields", .record (("message", .text e.message) :: e.fields.map fun (k, v) => (k, .text v))),
      ("target", .text e.topic)])
  | .pretty =>
    String.intercalate " "
      ((e.level.name ++ " " ++ e.topic ++ ": " ++ e.message) ::
        e.fields.map fun (k, v) => k ++ "=" ++ v)

theorem run_unreadable (content : String → Except Descriptor.FileFault ByteArray)
    (names : String → ResourceKind) (environment : Option String) (args : List String)
    (i : Invocation) (fault : Descriptor.FileFault) (asked : read args = .ok i)
    (unreadable : content i.config = .error fault) :
    run content names environment args = { ending := .failed ("IO error: " ++ fault.message) } := by
  rw [run, asked]
  show report names environment i (Descriptor.load (content i.config)) = _
  rw [unreadable, Descriptor.load_unreadable]
  rfl

end VirtualHosting.CommandLine
