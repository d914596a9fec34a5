/-
# Registration — what an administrative call reports

A call that adds something says what came of it; a call that names something
the table does not hold, or carries a text it cannot accept, is refused for a
stated cause.

* `isRegistered_iff`: an entry is in the table after the call unless the call
  was rejected.
-/
import VirtualHosting.Pattern

namespace VirtualHosting

set_option autoImplicit false

/-- What adding an entry came to. -/
inductive Registration where
  /-- The entry is new. -/
  | added
  /-- The entry was there already, for the same target. -/
  | unchanged
  /-- The name is taken by another target, which keeps it. -/
  | rejected
  deriving DecidableEq, Repr

namespace Registration

/-- Whether the entry is in the table after the call. -/
def isRegistered : Registration → Bool
  | rejected => false
  | _ => true

/-- The word for the outcome. -/
def name : Registration → String
  | added => "Added"
  | unchanged => "Unchanged"
  | rejected => "Rejected"

theorem isRegistered_iff (r : Registration) : r.isRegistered = true ↔ r ≠ rejected := by
  cases r <;> simp [isRegistered]

end Registration

/-- The host, mount path and version label of a deployed version. -/
structure Coordinates where
  host : String
  path : String
  version : String
  deriving DecidableEq, Repr

/-- Why an administrative call could not be carried out. -/
inductive Refusal where
  /-- The text is no handler pattern. -/
  | invalidPattern (pattern : String) (fault : Pattern.Fault)
  /-- Nothing is registered under the name. -/
  | unknownHost (name : String)
  /-- The name is an alias where a host is needed. -/
  | hostIsAlias (name : String)
  /-- Nothing is mounted at the path. -/
  | unknownApplication (host path : String)
  /-- A welcome file has a relative, nonempty name. -/
  | invalidWelcomeFile (name : String)
  /-- The application has no such version. -/
  | unknownVersion (missing : Coordinates)
  deriving DecidableEq, Repr

/-- The wording of a refusal. -/
def Refusal.message : Refusal → String
  | invalidPattern pattern fault =>
    "invalid handler pattern " ++ Text.quoted pattern ++ ": " ++ fault.message
  | unknownHost name => "no host registered as " ++ Text.quoted name
  | hostIsAlias name => Text.quoted name ++ " is an alias, not a host"
  | unknownApplication host path =>
    "host " ++ Text.quoted host ++ " has no application at " ++ Text.quoted path
  | invalidWelcomeFile name => "invalid welcome file " ++ Text.quoted name
  | unknownVersion missing =>
    "application " ++ Text.quoted missing.path ++ " on host " ++ Text.quoted missing.host ++
      " has no version " ++ Text.quoted missing.version

end VirtualHosting
