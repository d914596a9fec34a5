/-
# Proofs.Precedence — the rules by which a handler is selected

Handler selection is six strategies that try, defer and override one another.
Here it is one list of rules of which the first that applies decides
(`Version.Precedence`). A rule says of an outcome whether it gives it, in terms
of the handlers there are and of how the path is written: it searches nothing.

* `Decides.firstOf_cons`, `Decides.firstOf_map`: a list of rules is decided rule
  by rule;
* `Resolution.outcome_complete`: a result shows the outcome of selection.
-/
import VirtualHosting.Proofs.Covering
import VirtualHosting.Resolution.Selection

namespace VirtualHosting

set_option autoImplicit false

/-! ## The first rule that applies -/

section FirstOf

variable {O ι : Type} {rule : O → Prop} {rules : List (O → Prop)} {o : O}

/-- What the first rule gives that gives anything. -/
def FirstOf (rules : List (O → Prop)) (o : O) : Prop :=
  ∃ before rule after, rules = before ++ rule :: after ∧
    (∀ earlier ∈ before, ∀ o', ¬ earlier o') ∧ rule o

theorem not_firstOf_nil : ¬ FirstOf [] o := by
  rintro ⟨before, rule, after, whole, _⟩
  simp at whole

theorem firstOf_cons :
    FirstOf (rule :: rules) o ↔ rule o ∨ (∀ o', ¬ rule o') ∧ FirstOf rules o := by
  constructor
  · rintro ⟨before, given, after, whole, silent, gives⟩
    cases before with
    | nil =>
      obtain ⟨rfl, rfl⟩ := List.cons.inj whole
      exact .inl gives
    | cons first before =>
      obtain ⟨rfl, rfl⟩ := List.cons.inj whole
      refine .inr ⟨silent _ List.mem_cons_self, before, given, after, rfl, ?_, gives⟩
      exact fun earlier mem => silent earlier (List.mem_cons_of_mem _ mem)
  · rintro (gives | ⟨silent, before, given, after, rfl, quiet, gives⟩)
    · exact ⟨[], rule, rules, rfl, by simp, gives⟩
    · refine ⟨rule :: before, given, after, rfl, ?_, gives⟩
      simpa using ⟨silent, quiet⟩

/-- A rule that gives nothing is passed over. -/
theorem firstOf_cons_of_silent (silent : ∀ o', ¬ rule o') :
    FirstOf (rule :: rules) o ↔ FirstOf rules o := by
  rw [firstOf_cons, or_iff_right (silent o), and_iff_right silent]

/-- A list of rules gives something if a rule of it does. -/
theorem exists_firstOf_iff : (∃ o, FirstOf rules o) ↔ ∃ rule ∈ rules, ∃ o, rule o := by
  constructor
  · rintro ⟨o, before, rule, after, rfl, _, gives⟩
    exact ⟨rule, by simp, o, gives⟩
  · rintro ⟨rule, listed, o, gives⟩
    induction rules with
    | nil => cases listed
    | cons first rest later =>
      by_cases silent : ∀ o', ¬ first o'
      · have further : rule ∈ rest := by
          rcases List.mem_cons.1 listed with rfl | further
          · exact absurd gives (silent o)
          · exact further
        obtain ⟨o', given⟩ := later further
        exact ⟨o', (firstOf_cons_of_silent silent).2 given⟩
      · obtain ⟨o', gives'⟩ := not_forall_not.1 silent
        exact ⟨o', firstOf_cons.2 (.inl gives')⟩

/-- What every rule keeps to, the first that applies keeps to. -/
theorem FirstOf.of_forall {P : O → Prop} (each : ∀ rule ∈ rules, ∀ o, rule o → P o)
    (first : FirstOf rules o) : P o := by
  obtain ⟨before, rule, after, rfl, _, gives⟩ := first
  exact each rule (by simp) o gives

theorem FirstOf.of_forall_map {P : O → Prop} {xs : List ι} {f : ι → O → Prop}
    (each : ∀ x o, f x o → P o) (first : FirstOf (xs.map f) o) : P o := by
  apply of_forall _ first
  intro rule listed o gives
  obtain ⟨x, _, rfl⟩ := List.mem_map.1 listed
  exact each x o gives

/-- A rule is decided by the one outcome it gives, if it gives any. -/
def Decides (rule : O → Prop) (answer : Option O) : Prop :=
  ∀ o, rule o ↔ answer = some o

variable {answer rest : Option O}

theorem Decides.firstOf_nil : Decides (FirstOf ([] : List (O → Prop))) none :=
  fun _ => iff_of_false not_firstOf_nil nofun

theorem Decides.firstOf_cons (first : Decides rule answer) (others : Decides (FirstOf rules) rest) :
    Decides (FirstOf (rule :: rules)) (answer.or rest) := by
  intro o
  rw [VirtualHosting.firstOf_cons, others]
  simp only [first _]
  cases answer <;> simp

theorem Decides.congr {rule' : O → Prop} (decided : Decides rule answer)
    (alike : ∀ o, rule' o ↔ rule o) : Decides rule' answer :=
  fun o => (alike o).trans (decided o)

theorem Decides.of_eq {answer' : Option O} (decided : Decides rule answer)
    (same : answer' = answer) : Decides rule answer' :=
  same ▸ decided

theorem Decides.only (o : O) : Decides (fun o' => o' = o) (some o) :=
  fun o' => by rw [Option.some_inj, eq_comm]

/-- One rule for each of a list. -/
theorem Decides.firstOf_map {each : ι → O → Prop} {find : ι → Option O}
    (decided : ∀ i, Decides (each i) (find i)) (xs : List ι) :
    Decides (FirstOf (xs.map each)) (xs.findSome? find) := by
  induction xs with
  | nil => exact .firstOf_nil
  | cons x xs ih =>
    have both := (decided x).firstOf_cons ih
    rw [List.findSome?_cons]
    cases given : find x <;> simpa [given] using both

/-- A rule that applies under a condition. -/
theorem Decides.guard {p : Prop} {b : Bool} (decided : Decides rule answer) (meets : p ↔ b = true) :
    Decides (fun o => p ∧ rule o) (if b then answer else none) := by
  intro o
  dsimp only
  rw [meets, decided o]
  cases b <;> simp

end FirstOf

/-! ## Outcomes -/

/-- What selection sets of a result, the parts of the path aside. -/
structure Outcome (W : Type) where
  handler : Option W := none
  kind : Option MatchKind := none
  redirect : Option String := none
  deriving DecidableEq

variable {H A W : Type}

namespace Outcome

/-- Nothing is set. -/
def unmatched : Outcome W := {}

def chosen (kind : MatchKind) (h : Handler W) : Outcome W :=
  { handler := some h.target, kind := some kind }

/-- Only a redirect to the same path and a slash. -/
def redirected (uri : String) : Outcome W :=
  { redirect := some (uri ++ "/") }

/-- The handlers that `found` names are chosen. -/
def Via (kind : MatchKind) (found : Handler W → Prop) (o : Outcome W) : Prop :=
  ∃ h, found h ∧ o = chosen kind h

end Outcome

theorem Decides.via (kind : MatchKind) {found : Handler W → Prop} {stored : Option (Handler W)}
    (finds : ∀ h, found h ↔ stored = some h) :
    Decides (Outcome.Via kind found) (stored.map (Outcome.chosen kind)) := by
  intro o
  simp only [Outcome.Via, finds, Option.map_eq_some_iff, eq_comm (a := o)]

def Resolution.outcome (result : Resolution H A W) : Outcome W :=
  ⟨result.handler, result.matchKind, result.redirectPath⟩

def Choice.outcome (choice : Choice W) : Outcome W :=
  { handler := some choice.handler, kind := some choice.kind }

def Selection.outcome (uri : String) : Selection W → Outcome W
  | .none => .unmatched
  | .handler choice => choice.outcome
  | .redirect => .redirected uri

theorem Resolution.outcome_complete {start : Resolution H A W} (fresh : start.outcome = .unmatched)
    (uri : String) (selection : Selection W) :
    (start.complete uri selection).outcome = selection.outcome uri := by
  obtain ⟨no_handler, no_kind, no_redirect⟩ := Outcome.mk.inj fresh
  cases selection with
  | none => exact fresh
  | redirect => simp [outcome, complete, Selection.outcome, Outcome.redirected, no_handler, no_kind]
  | handler choice => simp [outcome, complete, Selection.outcome, Choice.outcome, no_redirect]

/-! ## The rules -/

namespace HandlerSet

variable (set : HandlerSet W) (path : String)

/-- The handler of exactly this path. -/
def ExactAt (h : Handler W) : Prop :=
  (path, h) ∈ set.exact.toList

/-- An exact match of the application root has a kind of its own. -/
def exactKind : MatchKind :=
  if path = "/" then .applicationRoot else .exact

/-- The handler of the most specific wildcard that reaches the path. -/
def WildcardAt (h : Handler W) : Prop :=
  ∃ name, set.wildcard.MostSpecific path (name, h)

/-- The handler of what follows the last dot behind the last slash. -/
def ExtensionAt (h : Handler W) : Prop :=
  ∃ front stem suffix : String, path = front ++ "/" ++ stem ++ "." ++ suffix ∧
    '/' ∉ stem.toList ∧ '/' ∉ suffix.toList ∧ '.' ∉ suffix.toList ∧
    (suffix, h) ∈ set.extension.toList

end HandlerSet

namespace Version

variable (v : Version A W) (rel : String)

/-- The resources say that the path names a file. -/
def IsFile (path : String) : Prop :=
  ∃ probe ∈ v.settings.resources, probe.look path = some .file

/-- The resources say that the path names a directory. -/
def IsDirectory (path : String) : Prop :=
  ∃ probe ∈ v.settings.resources, probe.look path = some .directory

/-- The request path ends in a slash. -/
def AsksDirectory : Prop :=
  ∃ front, v.path ++ rel = front ++ "/"

/-- A template handler, found by a wildcard for a directory, stands back. -/
def StandsBack (h : Handler W) : Prop :=
  h.flags.template = true ∧ v.AsksDirectory rel

/-- The wildcard handler stands back for the welcome files. -/
def Deferred : Prop :=
  ∃ h, v.handlers.WildcardAt rel h ∧ v.StandsBack rel h

/-- What the path of a welcome file gives if it is matched or a file. -/
def WelcomePass (path : String) : Outcome W → Prop :=
  FirstOf
    [Outcome.Via (HandlerSet.exactKind path) (v.handlers.ExactAt path),
      Outcome.Via .path (v.handlers.WildcardAt path),
      fun o => v.IsFile path ∧ Outcome.Via .extension (v.handlers.ExtensionAt path) o,
      fun o => v.IsFile path ∧ Outcome.Via .fallback (· ∈ v.handlers.fallback) o]

/-- What the path of a welcome file gives by its extension alone. -/
def GeneratedPass (path : String) : Outcome W → Prop :=
  Outcome.Via .extension fun h => v.handlers.ExtensionAt path h ∧ h.flags.resourceOnly = false

/-- What the welcome files give: the first that is matched or a file, else the
first that a handler makes up. -/
def Welcome : Outcome W → Prop :=
  FirstOf
    [FirstOf (v.settings.welcomeFiles.map fun name => v.WelcomePass (rel ++ name)),
      FirstOf (v.settings.welcomeFiles.map fun name => v.GeneratedPass (rel ++ name))]

/-- **The rules of handler selection**, for the path `rel` below the mount. -/
def Precedence : Outcome W → Prop :=
  FirstOf
    [Outcome.Via (HandlerSet.exactKind rel) (v.handlers.ExactAt rel),
      Outcome.Via .path fun h => v.handlers.WildcardAt rel h ∧ ¬ v.StandsBack rel h,
      fun o => (rel = "" ∧ v.settings.rootRedirect = true) ∧ o = .redirected (v.path ++ rel),
      fun o => ¬ v.Deferred rel ∧ Outcome.Via .extension (v.handlers.ExtensionAt rel) o,
      fun o => v.AsksDirectory rel ∧ v.Welcome rel o,
      fun o => (¬ v.Deferred rel ∧ ¬ v.AsksDirectory rel ∧ v.settings.directoryRedirect = true ∧
        v.IsDirectory (if rel = "" then "/" else rel)) ∧ o = .redirected (v.path ++ rel),
      fun o => ¬ v.Deferred rel ∧ Outcome.Via .fallback (· ∈ v.handlers.fallback) o,
      fun o => o = .unmatched]

end Version

end VirtualHosting
