/-
# Handler — the handlers of one application version

A `HandlerSet` keeps its handlers in one table per shape of pattern, with at
most one fallback. It remembers how many slashes its wildcard names have at
most, so that a search for a covering name knows where to cut a path first.

Targets are opaque: two handlers are the same exactly when their targets are
equal.

* `find?_empty`: an empty set holds no handler for any pattern.
-/
import VirtualHosting.Table
import VirtualHosting.Pattern

namespace VirtualHosting

set_option autoImplicit false

/-- What a handler asks of the selection. -/
structure HandlerFlags where
  /-- On a request for a directory the handler stands back for the welcome files
  if a wildcard led to it. -/
  template : Bool := false
  /-- A welcome file leads to the handler by its extension only if the file
  exists. -/
  resourceOnly : Bool := false
  deriving DecidableEq, Repr

/-- A registered handler. -/
structure Handler (W : Type) where
  target : W
  flags : HandlerFlags := {}
  deriving DecidableEq, Repr

/-- A handler to register, with its pattern as it is written. -/
structure HandlerMapping (W : Type) where
  pattern : String
  target : W
  flags : HandlerFlags := {}
  deriving DecidableEq, Repr

/-- The handlers of one application version. -/
structure HandlerSet (W : Type) where
  exact : Table (Handler W) := {}
  wildcard : Table (Handler W) := {}
  extension : Table (Handler W) := {}
  fallback : Option (Handler W) := none
  /-- The greatest number of slashes in a wildcard name. -/
  nesting : Nat := 0

/-- What adding a handler came to. -/
inductive Insertion (W : Type) where
  /-- The set with the new handler. -/
  | changed (set : HandlerSet W)
  /-- The pattern has this target already. -/
  | unchanged
  /-- The pattern has another target. -/
  | conflict

namespace HandlerSet

variable {W : Type}

/-- The set of no handlers. -/
def empty : HandlerSet W := {}

def isEmpty (set : HandlerSet W) : Bool :=
  set.exact.isEmpty && set.wildcard.isEmpty && set.extension.isEmpty && set.fallback.isNone

/-- The handler registered for a pattern. -/
def find? (set : HandlerSet W) (p : Pattern) : Option (Handler W) :=
  match p with
  | .fallback => set.fallback
  | .wildcard _ => set.wildcard.find? p.key
  | .extension _ => set.extension.find? p.key
  | .root | .exact _ => set.exact.find? p.key

/-- The set with `handler` in the free slot of `p`. -/
def place (set : HandlerSet W) (p : Pattern) (handler : Handler W) : HandlerSet W :=
  match p with
  | .fallback => { set with fallback := some handler }
  | .wildcard lead =>
    match set.wildcard.insert? p.key handler with
    | some wildcard => { set with wildcard, nesting := max set.nesting (Slash.count lead) }
    | none => set
  | .extension _ =>
    match set.extension.insert? p.key handler with
    | some extension => { set with extension }
    | none => set
  | .root | .exact _ =>
    match set.exact.insert? p.key handler with
    | some exact => { set with exact }
    | none => set

/-- Adds a handler unless its pattern is taken. -/
def add [DecidableEq W] (set : HandlerSet W) (p : Pattern) (target : W) (flags : HandlerFlags) :
    Insertion W :=
  match set.find? p with
  | some existing => if existing.target = target then .unchanged else .conflict
  | none => .changed (set.place p ⟨target, flags⟩)

/-- The set without the handler of `p`; refused if there is none. -/
def remove? (set : HandlerSet W) (p : Pattern) : Option (HandlerSet W) :=
  match p with
  | .fallback => set.fallback.map fun _ => { set with fallback := none }
  | .wildcard _ =>
    (set.wildcard.erase? p.key).map fun wildcard =>
      { set with wildcard, nesting := wildcard.nesting }
  | .extension _ =>
    (set.extension.erase? p.key).map fun extension => { set with extension }
  | .root | .exact _ =>
    (set.exact.erase? p.key).map fun exact => { set with exact }

@[simp]
theorem find?_empty (p : Pattern) : (empty : HandlerSet W).find? p = none := by
  cases p
  case fallback => rfl
  all_goals exact Table.find?_empty _

end HandlerSet

end VirtualHosting
