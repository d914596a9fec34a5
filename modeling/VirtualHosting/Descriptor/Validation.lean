/-
# Descriptor.Validation — descriptors that can be deployed as they are

Validation finds everything that the routing table would refuse, and default
hosts that do not exist, before anything is deployed. Names count as equal if
their stored forms are; a repeated name or version is reported for every
occurrence but the first.
-/
import VirtualHosting.Descriptor
import VirtualHosting.Host

namespace VirtualHosting.Descriptor

set_option autoImplicit false

/-- What is wrong with a descriptor. -/
inductive Problem where
  | emptyHostName
  | duplicateHost (name : String)
  | invalidApplicationPath (host path : String)
  | duplicateApplication (host path version : String)
  | noPatterns (path handler : String)
  | invalidPattern (path handler pattern : String) (fault : Pattern.Fault)
  | invalidWelcomeFile (path name : String)
  | unknownDefaultHost (name : String)
  deriving DecidableEq, Repr

/-- The wording of a problem. -/
def Problem.message : Problem → String
  | emptyHostName => "host name is empty"
  | duplicateHost name => "host name " ++ Text.quoted name ++ " is defined more than once"
  | invalidApplicationPath host path =>
    "application path " ++ Text.quoted path ++ " on host " ++ Text.quoted host ++
      " must be empty or start with '/' and not end with '/'"
  | duplicateApplication host path version =>
    "application " ++ Text.quoted path ++ " version " ++ Text.quoted version ++
      " is defined more than once on host " ++ Text.quoted host
  | noPatterns path handler =>
    "handler " ++ Text.quoted handler ++ " in application " ++ Text.quoted path ++
      " has no patterns"
  | invalidPattern path handler pattern fault =>
    "handler " ++ Text.quoted handler ++ " in application " ++ Text.quoted path ++ ": " ++
      (Refusal.invalidPattern pattern fault).message
  | invalidWelcomeFile path name =>
    "welcome file " ++ Text.quoted name ++ " in application " ++ Text.quoted path ++
      " must be a non-empty relative name"
  | unknownDefaultHost name => "default host " ++ Text.quoted name ++ " is not defined"

/-- Whether something can be mounted at a path: it is empty, or starts with a
slash and does not end with one. -/
def isMountPath (path : String) : Bool :=
  path == "" || (Text.startsWith "/" path && !Text.endsWith "/" path)

/-- The items whose key occurs earlier, among `seen` or the items before. -/
def repeated {α β : Type} [DecidableEq β] (key : α → β) (seen : List β) : List α → List α
  | [] => []
  | a :: rest =>
    if key a ∈ seen then a :: repeated key seen rest else repeated key (key a :: seen) rest

def handlerProblems (path : String) (handler : HandlerSpec) : List Problem :=
  (if handler.patterns.isEmpty then [.noPatterns path handler.name] else []) ++
    handler.patterns.filterMap fun pattern =>
      match Pattern.parse pattern with
      | .error fault => some (.invalidPattern path handler.name pattern fault)
      | .ok _ => none

def welcomeProblems (path : String) (names : List String) : List Problem :=
  (names.filter fun name => name == "" || Text.startsWith "/" name).map (.invalidWelcomeFile path)

/-- The problems within one application. -/
def contentProblems (app : ApplicationSpec) : List Problem :=
  app.handlers.flatMap (handlerProblems app.path) ++ welcomeProblems app.path app.welcomeFiles

/-- The problems of a host's applications, given the versions that came before. -/
def applicationProblems (host : String) (seen : List (String × String)) :
    List ApplicationSpec → List Problem
  | [] => []
  | app :: rest =>
    (if isMountPath app.path then [] else [.invalidApplicationPath host app.path]) ++
      (if (app.path, app.version) ∈ seen
        then [.duplicateApplication host app.path app.version] else []) ++
      contentProblems app ++
      applicationProblems host ((app.path, app.version) :: seen) rest

/-- The names of a host and its aliases. -/
def namesOf (host : HostSpec) : List String :=
  host.name :: host.aliases

/-- The problems of the hosts, given the stored names that came before. -/
def hostProblems (seen : List String) : List HostSpec → List Problem
  | [] => []
  | host :: rest =>
    (if Text.isBlank host.name then [.emptyHostName] else []) ++
      (repeated normalizeHostName seen (namesOf host)).map .duplicateHost ++
      applicationProblems host.name [] host.applications ++
      hostProblems ((namesOf host).map normalizeHostName ++ seen) rest

/-- The stored names of all hosts and aliases. -/
def storedNames (d : Descriptor) : List String :=
  d.hosts.flatMap fun host => (namesOf host).map normalizeHostName

def defaultHostProblems (d : Descriptor) : List Problem :=
  match d.defaultHost with
  | some name =>
    if normalizeHostName name ∈ d.storedNames then [] else [.unknownDefaultHost name]
  | none => []

/-- Everything that is wrong with a descriptor, in document order. -/
def validate (d : Descriptor) : List Problem :=
  hostProblems [] d.hosts ++ d.defaultHostProblems

end VirtualHosting.Descriptor
