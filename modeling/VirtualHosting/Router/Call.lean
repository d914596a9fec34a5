/-
# Router.Call — administrative calls as data

A `Call` is one administrative request to a router, a `Reply` what it answers.
`Router.run` carries a call out, and `Router.runAll` a list of them from a given
router. A router is reachable if some list of calls leads to it from the empty
one.

* `runAll_append`: a run splits at any point;
* `Reachable.run`: what is reachable stays so under any call.
-/
import VirtualHosting.Router.Deployments

namespace VirtualHosting

set_option autoImplicit false

/-- An administrative request. -/
inductive Call (H A W : Type) where
  | setDefaultHost (name : Option String)
  | addHost (name : String) (aliases : List String) (target : H)
  | removeHost (name : String)
  | addAlias (host name : String)
  | removeAlias (name : String)
  | deploy (host : String) (hostTarget : H) (deployment : Deployment A W)
  | undeploy (place : Coordinates)
  | pause (place : Coordinates) (target : A)
  | addHandler (place : Coordinates) (pattern : String) (target : W) (flags : HandlerFlags)
  | removeHandler (place : Coordinates) (pattern : String)
  | addWelcomeFile (place : Coordinates) (name : String)
  | removeWelcomeFile (place : Coordinates) (name : String)
  | clearWelcomeFiles (place : Coordinates)

/-- What a call answers. -/
inductive Reply where
  | done
  | flag (happened : Bool)
  | registration (outcome : Registration)
  | refused (refusal : Refusal)
  deriving DecidableEq, Repr

namespace Reply

def ofRegistration : Except Refusal Registration → Reply
  | .ok outcome => registration outcome
  | .error refusal => refused refusal

def ofFlag : Except Refusal Bool → Reply
  | .ok happened => flag happened
  | .error refusal => refused refusal

def ofDone : Except Refusal Unit → Reply
  | .ok () => done
  | .error refusal => refused refusal

end Reply

namespace Router

variable {H A W : Type} [DecidableEq H] [DecidableEq A] [DecidableEq W]

/-- Carries a call out. -/
def run (r : Router H A W) : Call H A W → Logged (Reply × Router H A W)
  | .setDefaultHost name => do return (.done, ← r.setDefaultHost name)
  | .addHost name aliases target => do
    let (outcome, next) ← r.addHost name aliases target
    return (.registration outcome, next)
  | .removeHost name => do
    let (happened, next) ← r.removeHost name
    return (.flag happened, next)
  | .addAlias host name => do
    let (outcome, next) ← r.addAlias host name
    return (.ofRegistration outcome, next)
  | .removeAlias name => do
    let (happened, next) ← r.removeAlias name
    return (.flag happened, next)
  | .deploy host hostTarget deployment => do
    let (outcome, next) ← r.deploy host hostTarget deployment
    return (.ofRegistration outcome, next)
  | .undeploy place => do
    let (happened, next) ← r.undeploy place
    return (.flag happened, next)
  | .pause place target => do
    let (happened, next) ← r.pause place target
    return (.flag happened, next)
  | .addHandler place pattern target flags => do
    let (outcome, next) ← r.addHandler place pattern target flags
    return (.ofRegistration outcome, next)
  | .removeHandler place pattern => do
    let (outcome, next) ← r.removeHandler place pattern
    return (.ofFlag outcome, next)
  | .addWelcomeFile place name =>
    let (outcome, next) := r.addWelcomeFile place name
    pure (.ofRegistration outcome, next)
  | .removeWelcomeFile place name =>
    let (outcome, next) := r.removeWelcomeFile place name
    pure (.ofFlag outcome, next)
  | .clearWelcomeFiles place =>
    let (outcome, next) := r.clearWelcomeFiles place
    pure (.ofDone outcome, next)

/-- The router after a call. -/
def after (r : Router H A W) (call : Call H A W) : Router H A W :=
  (r.run call).value.2

/-- The router after a list of calls. -/
def runAll (r : Router H A W) (calls : List (Call H A W)) : Router H A W :=
  calls.foldl after r

/-- Some list of calls leads from the empty router to `r`. -/
def Reachable (r : Router H A W) : Prop :=
  ∃ calls : List (Call H A W), runAll empty calls = r

theorem runAll_append (r : Router H A W) (first second : List (Call H A W)) :
    r.runAll (first ++ second) = (r.runAll first).runAll second :=
  List.foldl_append

theorem reachable_empty : Reachable (empty : Router H A W) :=
  ⟨[], rfl⟩

theorem Reachable.run {r : Router H A W} (reachable : r.Reachable) (call : Call H A W) :
    (r.after call).Reachable := by
  obtain ⟨calls, rfl⟩ := reachable
  exact ⟨calls ++ [call], runAll_append _ _ _⟩

end Router

end VirtualHosting
