/-
# Event — what the routing table tells its operators

Every administrative call and every lookup returns, beside its answer, the
events it gave rise to, in order. An event is a value that says what happened;
its level, wording, fields and topic are functions of that value.

`Logged` is the result of a step together with its events. Steps in sequence
append their events.

* `log_bind`: the events of two steps are those of the first, then those of the
  second, and how steps are grouped makes no difference (`LawfulMonad Logged`);
* `errors_append`: refusals counted over two logs add up.
-/
import VirtualHosting.Registration

namespace VirtualHosting

set_option autoImplicit false

/-- How much an event matters, from passing detail to a refused registration. -/
inductive Level where
  | trace
  | debug
  | info
  | warn
  | error
  deriving DecidableEq, Repr

namespace Level

def name : Level → String
  | trace => "TRACE"
  | debug => "DEBUG"
  | info => "INFO"
  | warn => "WARN"
  | error => "ERROR"

/-- Greater for what matters more. -/
def rank : Level → Nat
  | trace => 1
  | debug => 2
  | info => 3
  | warn => 4
  | error => 5

end Level

/-- What happened. -/
inductive Event where
  | defaultHostSet (name : Option String)
  | hostRegistered (host : String)
  | hostAlreadyRegistered (host : String)
  | hostRefused (host existing : String)
  | hostRemoved (host : String)
  | aliasRegistered (name host : String)
  | aliasAlreadyRegistered (name host : String)
  | aliasRefused (name host : String) (existing : Option String)
  | aliasRemoved (name : String)
  | patternUnusual (pattern : String)
  | patternDropped (pattern application : String)
  | versionRegistered (place : Coordinates)
  | versionAlreadyDeployed (place : Coordinates)
  | versionRefused (place : Coordinates)
  | versionRemoved (place : Coordinates)
  | versionPaused (place : Coordinates)
  | handlerRegistered (path version pattern : String) (outcome : Registration)
  | handlerRefused (path version pattern : String)
  | handlerRemoved (path version pattern : String)
  | noHostMatched (host : String)
  | noApplicationMatched (host uri : String)
  | pausedVersionSelected (path version : String)
  | probeRefused (path : String)
  | descriptorLoaded (path : String) (hosts applications : Nat)
  | descriptorDeployed (hosts applications : Nat) (defaultHost : Option String)
  | resolved (url result : String)
  deriving DecidableEq, Repr

namespace Event

def level : Event → Level
  | hostRefused .. | aliasRefused .. | patternDropped .. | versionRefused ..
  | handlerRefused .. => .error
  | patternUnusual .. => .warn
  | descriptorDeployed .. => .info
  | noHostMatched .. | noApplicationMatched .. | pausedVersionSelected ..
  | probeRefused .. => .trace
  | _ => .debug

def message : Event → String
  | defaultHostSet _ => "Default host set"
  | hostRegistered _ => "Host registered"
  | hostAlreadyRegistered _ => "Host already registered"
  | hostRefused .. => "Duplicate host registration rejected"
  | hostRemoved _ => "Host removed"
  | aliasRegistered .. => "Host alias registered"
  | aliasAlreadyRegistered .. => "Host alias already registered"
  | aliasRefused .. => "Duplicate host alias rejected"
  | aliasRemoved _ => "Host alias removed"
  | patternUnusual _ =>
    "Handler pattern ends with '*' but is not a path wildcard; it will match literally"
  | patternDropped .. => "Pattern mapped to two handlers in one deployment; keeping the first"
  | versionRegistered _ => "Application version registered"
  | versionAlreadyDeployed _ => "Application version already deployed"
  | versionRefused _ => "Application version already deployed for a different target"
  | versionRemoved _ => "Application version removed"
  | versionPaused _ | pausedVersionSelected .. => "Application version paused"
  | handlerRegistered .. => "Handler registered"
  | handlerRefused .. => "Handler pattern already mapped to a different handler"
  | handlerRemoved .. => "Handler removed"
  | noHostMatched _ => "No host matched"
  | noApplicationMatched .. => "No application matched"
  | probeRefused _ => "Refusing to probe path outside the document root"
  | descriptorLoaded .. => "Descriptor loaded"
  | descriptorDeployed .. => "Descriptor deployed"
  | resolved .. => "Resolved"

/-- The fields that locate a version. -/
def coordinateFields (place : Coordinates) : List (String × String) :=
  [("host", place.host), ("path", place.path), ("version", place.version)]

/-- The fields that locate a handler. -/
def handlerFields (path version pattern : String) : List (String × String) :=
  [("path", path), ("version", version), ("pattern", pattern)]

/-- The event's fields by name. -/
def fields : Event → List (String × String)
  | defaultHostSet name => [("default_host", Text.quotedOption name)]
  | hostRegistered host | hostAlreadyRegistered host | hostRemoved host
  | noHostMatched host => [("host", host)]
  | hostRefused host existing => [("host", host), ("existing", existing)]
  | aliasRegistered name host | aliasAlreadyRegistered name host =>
    [("alias", name), ("host", host)]
  | aliasRefused name host existing =>
    [("alias", name), ("host", host), ("existing", Text.quotedOption existing)]
  | aliasRemoved name => [("alias", name)]
  | patternUnusual pattern => [("pattern", pattern)]
  | patternDropped pattern application => [("pattern", pattern), ("application", application)]
  | versionRegistered c | versionAlreadyDeployed c | versionRefused c | versionRemoved c
  | versionPaused c => coordinateFields c
  | handlerRegistered path version pattern outcome =>
    handlerFields path version pattern ++ [("outcome", outcome.name)]
  | handlerRefused path version pattern | handlerRemoved path version pattern =>
    handlerFields path version pattern
  | noApplicationMatched host uri => [("host", host), ("uri", uri)]
  | pausedVersionSelected path version => [("path", path), ("version", version)]
  | probeRefused path => [("path", path)]
  | descriptorLoaded path hosts applications =>
    [("path", path), ("hosts", toString hosts), ("applications", toString applications)]
  | descriptorDeployed hosts applications defaultHost =>
    [("hosts", toString hosts), ("applications", toString applications),
      ("default_host", Text.quotedOption defaultHost)]
  | resolved url result => [("url", url), ("result", result)]

end Event

/-- A result and the events on the way to it. -/
structure Logged (α : Type) where
  value : α
  log : List Event := []

namespace Logged

variable {α β : Type}

/-- A step that only reports. -/
def tell (e : Event) : Logged Unit :=
  ⟨(), [e]⟩

instance : Monad Logged where
  pure a := ⟨a, []⟩
  bind x f := ⟨(f x.value).value, x.log ++ (f x.value).log⟩

@[simp]
theorem value_pure (a : α) : (pure a : Logged α).value = a := rfl

@[simp]
theorem log_pure (a : α) : (pure a : Logged α).log = [] := rfl

@[simp]
theorem value_bind (x : Logged α) (f : α → Logged β) :
    (x >>= f).value = (f x.value).value := rfl

@[simp]
theorem log_bind (x : Logged α) (f : α → Logged β) :
    (x >>= f).log = x.log ++ (f x.value).log := rfl

@[simp]
theorem value_map (f : α → β) (x : Logged α) : (f <$> x).value = f x.value := rfl

@[simp]
theorem log_map (f : α → β) (x : Logged α) : (f <$> x).log = x.log :=
  List.append_nil x.log

@[simp]
theorem log_tell (e : Event) : (tell e).log = [e] := rfl

instance : LawfulMonad Logged :=
  LawfulMonad.mk' Logged
    (fun x => congrArg (mk x.value) (List.append_nil x.log))
    (fun _ _ => rfl)
    (fun x f g =>
      congrArg (mk (g (f x.value).value).value)
        (List.append_assoc x.log (f x.value).log (g (f x.value).value).log))

end Logged

/-- How many events report a refused registration. -/
def errors (log : List Event) : Nat :=
  log.countP fun e => e.level == .error

theorem errors_append (first second : List Event) :
    errors (first ++ second) = errors first + errors second :=
  List.countP_append

end VirtualHosting
