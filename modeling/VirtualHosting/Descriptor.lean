/-
# Descriptor — what is to be deployed

A descriptor lists hosts, the applications of each, and the handlers of each
application, together with a default host and how to log. Every field but a
host's and a handler's name and a handler's patterns may be left out.
-/
import VirtualHosting.Text.Blank
import VirtualHosting.Event

namespace VirtualHosting

set_option autoImplicit false

/-- How log lines are written. -/
inductive LogFormat where
  | pretty
  | json
  deriving DecidableEq, Repr

/-- Both formats with the words for them. -/
def LogFormat.ofName? : String → Option LogFormat
  | "pretty" => some .pretty
  | "json" => some .json
  | _ => none

def LogFormat.name : LogFormat → String
  | .pretty => "pretty"
  | .json => "json"

/-- What is logged and how. -/
structure LogSettings where
  level : String := "info"
  format : LogFormat := .pretty
  deriving DecidableEq, Repr

/-- A handler and its patterns. -/
structure HandlerSpec where
  name : String
  patterns : List String
  template : Bool := false
  resourceOnly : Bool := false
  deriving DecidableEq, Repr

/-- A version of an application. -/
structure ApplicationSpec where
  path : String := ""
  version : String := ""
  documentRoot : Option String := none
  welcomeFiles : List String := []
  rootRedirect : Bool := true
  directoryRedirect : Bool := false
  paused : Bool := false
  handlers : List HandlerSpec := []
  deriving DecidableEq, Repr

/-- A host, its aliases and its applications. -/
structure HostSpec where
  name : String
  aliases : List String := []
  applications : List ApplicationSpec := []
  deriving DecidableEq, Repr

/-- What is to be deployed. -/
structure Descriptor where
  defaultHost : Option String := none
  logging : LogSettings := {}
  hosts : List HostSpec := []
  deriving DecidableEq, Repr

namespace Descriptor

/-- Every application with its host, in document order. -/
def applications (d : Descriptor) : List (HostSpec × ApplicationSpec) :=
  d.hosts.flatMap fun host => host.applications.map fun a => (host, a)

theorem mem_applications (d : Descriptor) (host : HostSpec) (app : ApplicationSpec) :
    (host, app) ∈ d.applications ↔ host ∈ d.hosts ∧ app ∈ host.applications := by
  simp [applications]

end Descriptor

/-- The label that resolutions show for a version of an application. -/
def applicationLabel (path version : String) : String :=
  let shown := if path = "" then "/" else path
  if version = "" then shown else shown ++ " (version " ++ version ++ ")"

end VirtualHosting
