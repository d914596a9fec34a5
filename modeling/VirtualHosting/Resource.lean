/-
# Resource — what lies behind a path

Welcome files and directory redirects depend on whether a path inside an
application names a file, a directory or nothing. The routing table only asks:
a `Probe` answers, or declines to look at all.
-/
import VirtualHosting.Event

namespace VirtualHosting

set_option autoImplicit false

/-- What a path names. -/
inductive ResourceKind where
  | missing
  | file
  | directory
  deriving DecidableEq, Repr

/-- Answers what a path inside the application names. -/
structure Probe where
  /-- The answer, or nothing where the path leads out of the probed tree. -/
  look : String → Option ResourceKind

namespace Probe

/-- Asks, and reports a path that was not looked at. -/
def ask (probe : Probe) (path : String) : Logged ResourceKind :=
  match probe.look path with
  | some kind => pure kind
  | none => do
    Logged.tell (.probeRefused path)
    return .missing

/-- Answers from two lists of paths, by equality alone. -/
def listed (files directories : List String) : Probe where
  look path :=
    if path ∈ files then some .file
    else if path ∈ directories then some .directory
    else some .missing

end Probe

end VirtualHosting
