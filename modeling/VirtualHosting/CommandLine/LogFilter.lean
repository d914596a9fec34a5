/-
# CommandLine.LogFilter — which events are logged

A filter is a list of directives between commas. Of the directives that concern an
event the most specific one decides: the longest topic, then a field. A directive
that cannot be read does not count. Without any directive errors alone pass.

Nothing here runs inside a span, so a directive with a span or with the value of
a field concerns no event; it still keeps the filter from being empty.
-/
import VirtualHosting.CommandLine.LogFilter.Directive

namespace VirtualHosting

set_option autoImplicit false

/-- What a filter knows an event by: the part of the program that tells it. -/
def Event.topic : Event → String
  | descriptorLoaded .. | resolved .. => "request_mapper"
  | descriptorDeployed .. => "request_mapper::config::deploy"
  | patternUnusual _ => "request_mapper::mapping::pattern"
  | probeRefused _ => "request_mapper::mapping::resources"
  | _ => "request_mapper::mapping::mapper"

/-- Whether an event has a field. Its message is one too. -/
def Event.hasField (e : Event) (name : String) : Bool :=
  name = "message" || e.fields.any (·.1 == name)

namespace CommandLine

namespace Directive

/-- Whether a directive can decide on events at all. -/
def isStatic (d : Directive) : Bool :=
  d.span.isNone && (d.field.map (·.2.isNone)).getD true

/-- Whether a directive concerns an event. -/
def concerns (d : Directive) (e : Event) : Bool :=
  (d.topic.map (Text.startsWith · e.topic)).getD true
    && (d.field.map fun (name, _) => e.hasField name).getD true

/-- Whether `d` is at least as specific as another directive on the same event. -/
def overrides (d other : Directive) : Bool :=
  let length (d : Directive) : Nat := (d.topic.map fun topic => topic.utf8ByteSize + 1).getD 0
  let field (d : Directive) : String := (d.field.map (·.1)).getD ""
  length other < length d ||
    (length other == length d && (other.field.isNone || d.field.isSome)
      && compare (field other) (field d) != .gt)

end Directive

/-- What decides on events. -/
structure LogFilter where
  directives : List Directive
  deriving DecidableEq, Repr

namespace LogFilter

/-- The filter of these directives. Those with a field come last. -/
def ofDirectives (directives : List Directive) : LogFilter :=
  if directives.isEmpty then ⟨[{ limit := some .error }]⟩
  else
    let static := directives.filter (·.isStatic)
    ⟨static.filter (·.field.isNone) ++ static.filter (·.field.isSome)⟩

/-- The stretches of a text between commas that hold anything. -/
def stretches (text : String) : List String :=
  ((Text.splitAt ',' text.toList).map String.ofList).filter (· != "")

/-- Reads directives, without those that are unreadable. -/
def readable : List String → Except Directive.Misreading (List Directive)
  | [] => .ok []
  | text :: rest =>
    match Directive.parse text with
    | .ok d => (readable rest).map (d :: ·)
    | .error .unreadable => readable rest
    | .error .torn => .error .torn

/-- Reads a filter, without the directives that are unreadable. -/
def parse (text : String) : Except Directive.Misreading LogFilter :=
  (readable (stretches text)).map ofDirectives

/-- Reads a filter every directive of which has to be readable. -/
def parseAll (text : String) : Except Directive.Misreading LogFilter :=
  ((stretches text).mapM Directive.parse).map ofDirectives

/-- The directive that decides on an event. -/
def deciding? (filter : LogFilter) (e : Event) : Option Directive :=
  (filter.directives.filter (·.concerns e)).foldl
    (fun best d => match best with
      | none => some d
      | some best => some (if d.overrides best then d else best)) none

/-- Whether an event passes. -/
def admits (filter : LogFilter) (e : Event) : Bool :=
  match (filter.deciding? e).bind (·.limit) with
  | none => false
  | some least => decide (least.rank ≤ e.level.rank)

theorem readable_ne_unreadable (texts : List String) :
    readable texts ≠ .error .unreadable := by
  induction texts with
  | nil => simp [readable]
  | cons text rest ih =>
    unfold readable
    split
    · cases more : readable rest with
      | ok ds => simp [Except.map]
      | error why => simpa [Except.map, more] using ih
    · exact ih
    · simp

end LogFilter

end CommandLine

end VirtualHosting
