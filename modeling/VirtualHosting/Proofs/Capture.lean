/-
# Proofs.Capture — a handler that is added takes requests for itself only

One more handler can be found directly, or by any welcome file in either pass, and
it may do away with a template handler that stood back. In all these ways it is
found itself: it never makes the selection turn to a third handler or to a
redirect. `Captured` says so of two answers, and every step of the selection keeps
it, because a step that both selections reach looks at the same settings and at
searches that are captured themselves.

* `HandlerSet.WellFormed.captured_exact`, `captured_wildcard`, `captured_extension`,
  `captured_fallback`: the searches;
* `Version.captured_welcome`, `Version.captured_select`: the steps;
* `Version.handlers_capture`: adding a handler, and removing one.
-/
import VirtualHosting.Proofs.HandlerSelection
import VirtualHosting.Proofs.Slots

namespace VirtualHosting

set_option autoImplicit false

variable {A W : Type}

/-! ## Answers before and after -/

/-- An answer is the same after a change, or one that the change brings about. -/
def Captured {α : Type} (mine : α → Prop) (before after : Option α) : Prop :=
  after = before ∨ ∃ answer, after = some answer ∧ mine answer

namespace Captured

variable {α ι : Type} {mine : α → Prop} {before before' after after' : Option α}

theorem refl (answer : Option α) : Captured mine answer answer :=
  .inl rfl

theorem or (first : Captured mine before after) (second : Captured mine before' after') :
    Captured mine (before.or before') (after.or after') := by
  rcases first with rfl | ⟨answer, rfl, ours⟩
  · cases after with
    | some answer => exact .refl _
    | none => simpa only [Option.none_or] using second
  · exact .inr ⟨answer, rfl, ours⟩

theorem guard (captured : Captured mine before after) (meets : Bool) :
    Captured mine (if meets then before else none) (if meets then after else none) := by
  cases meets with
  | true => exact captured
  | false => exact .refl none

theorem findSome? {f g : ι → Option α} (each : ∀ i, Captured mine (f i) (g i)) (xs : List ι) :
    Captured mine (xs.findSome? f) (xs.findSome? g) := by
  induction xs with
  | nil => exact .refl none
  | cons x xs ih =>
    have both := (each x).or ih
    rw [List.findSome?_cons, List.findSome?_cons]
    cases first : f x <;> cases first' : g x <;> simpa [first, first'] using both

end Captured

/-! ## How a handler is reached -/

/-- The pattern is the one that led to the choice. -/
def Choice.Through (choice : Choice W) : Pattern → Prop
  | .root => choice.kind = .applicationRoot ∧ choice.requestPath = "/"
  | .exact path => choice.kind = HandlerSet.exactKind path ∧ choice.requestPath = path
  | .wildcard lead => choice.kind = .path ∧ choice.handlerPath = lead ∧
      Slash.Reaches lead choice.requestPath
  | .extension suffix => choice.kind = .extension ∧
      ∃ front stem : String, choice.requestPath = front ++ "/" ++ (stem ++ "." ++ suffix) ∧
        '/' ∉ (stem ++ "." ++ suffix).toList ∧ '.' ∉ suffix.toList
  | .fallback => choice.kind = .fallback

/-- The choice of a handler through its own pattern, and not as a template. -/
structure Choice.Takes (choice : Choice W) (p : Pattern) (target : W) : Prop where
  handler : choice.handler = target
  through : choice.Through p
  plain : choice.template = false

theorem Choice.Takes.settle {choice : Choice W} {p : Pattern} {target : W}
    (takes : choice.Takes p target) : Version.settle choice = choice := by
  rw [Version.settle, takes.plain]
  rfl

/-! ## The searches -/

theorem Table.entry?_eq_map_find? {β : Type} (t : Table β) (key : String) :
    t.entry? key = (t.find? key).map (Prod.mk key) := by
  rw [find?, Option.map_map]
  cases found : t.entry? key with
  | none => rfl
  | some e =>
    have named := beq_iff_eq.1 (Option.filter_eq_some_iff.1 found).2
    rw [← named]
    rfl

namespace HandlerSet

variable {set : HandlerSet W} {p : Pattern}

/-- The choice of the handler of a path. -/
def exactAt (path : String) (handler : Handler W) : Choice W :=
  if path = "/" then
    { handler := handler.target, kind := .applicationRoot, requestPath := path, handlerPath := "",
      extraPath := "/" }
  else { handler := handler.target, kind := .exact, requestPath := path, handlerPath := path }

theorem exactChoice?_eq (set : HandlerSet W) (path : String) :
    set.exactChoice? path = (set.find? (.exact path)).map (exactAt path) := by
  rw [exactChoice?, Table.entry?_eq_map_find?, Option.map_map]
  rfl

namespace WellFormed

variable (ordered : set.WellFormed) (free : set.find? p = none) (handler : Handler W)
include ordered free

theorem captured_exact (path : String) :
    Captured (Choice.Takes · p handler.target) (set.exactChoice? path)
      ((set.place p handler).exactChoice? path) := by
  rw [exactChoice?_eq, exactChoice?_eq, ordered.find?_place_eq free]
  split
  · rename_i here
    refine .inr ⟨exactAt path handler, rfl, ?_⟩
    cases p with
    | root =>
      obtain rfl : path = "/" := Pattern.exact.inj here
      exact ⟨rfl, ⟨rfl, rfl⟩, rfl⟩
    | exact path' =>
      obtain rfl : path = path' := Pattern.exact.inj here
      unfold exactAt
      by_cases bare : path = "/"
      · simp only [bare, if_true]
        exact ⟨rfl, ⟨rfl, rfl⟩, rfl⟩
      · simp only [bare, if_false]
        exact ⟨rfl, ⟨by simp [exactKind, bare], rfl⟩, rfl⟩
    | fallback | wildcard | extension => cases here
  · exact .refl _

theorem captured_wildcard (plain : handler.flags.template = false) (path : String) :
    Captured (Choice.Takes · p handler.target) (set.wildcardChoice? path)
      ((set.place p handler).wildcardChoice? path) := by
  cases p with
  | wildcard lead =>
    obtain ⟨wildcard, inserted, _⟩ := ordered.2.exists_insert? free handler
    unfold wildcardChoice?
    simp only [HandlerSet.place, inserted]
    rcases ordered.2.covering?_insert? ordered.4 inserted path with same | ⟨found, reach⟩
    · rw [show Slash.count lead = Slash.count (Pattern.wildcard lead).key from rfl, same]
      exact .refl _
    · rw [show Slash.count lead = Slash.count (Pattern.wildcard lead).key from rfl, found]
      exact .inr ⟨_, rfl, ⟨rfl, ⟨rfl, rfl, reach⟩, plain⟩⟩
  | fallback => exact .refl _
  | extension | root | exact =>
    simp only [HandlerSet.place]
    split <;> exact .refl _

theorem captured_extension (path : String) (present : Bool) :
    Captured (Choice.Takes · p handler.target) (set.extensionChoice? path present)
      ((set.place p handler).extensionChoice? path present) := by
  unfold extensionChoice?
  simp only [Option.bind_eq_bind]
  cases cut : Text.afterLast? '/' path with
  | none => exact .refl none
  | some file =>
    simp only [Option.bind_some]
    cases cut' : Text.afterLast? '.' file with
    | none => exact .refl none
    | some suffix =>
      simp only [Option.bind_some]
      have reading := ordered.find?_place_eq free handler (.extension suffix)
      rw [show (set.place p handler).extension.find? suffix = _ from reading]
      split
      · rename_i here
        obtain rfl : p = .extension suffix := by
          cases p <;> simp_all [Pattern.slot]
        rw [show set.extension.find? suffix = none from free]
        simp only [Option.bind_some, Option.bind_none]
        split
        · obtain ⟨front, whole, unslashed⟩ := Text.afterLast?_eq_some_iff.1 cut
          obtain ⟨stem, rest, undotted⟩ := Text.afterLast?_eq_some_iff.1 cut'
          subst rest
          exact .inr ⟨_, rfl, ⟨rfl, ⟨rfl, front, stem, whole, unslashed, undotted⟩, rfl⟩⟩
        · exact .refl none
      · exact .refl _

theorem captured_fallback (path : String) :
    Captured (Choice.Takes · p handler.target) (set.fallbackChoice? path)
      ((set.place p handler).fallbackChoice? path) := by
  have reading := ordered.find?_place_eq free handler .fallback
  unfold fallbackChoice?
  rw [show (set.place p handler).fallback = _ from reading]
  split
  · rename_i here
    obtain rfl : p = .fallback := by
      cases p <;> simp_all [Pattern.slot]
    exact .inr ⟨_, rfl, ⟨rfl, rfl, rfl⟩⟩
  · exact .refl _

end WellFormed

end HandlerSet

/-! ## The steps of the selection -/

/-- A selection is the same after a change, or a choice that the change brings about. -/
def Selection.Captured (mine : Choice W → Prop) (before after : Selection W) : Prop :=
  after = before ∨ ∃ choice, after = .handler choice ∧ mine choice

namespace Selection.Captured

variable {mine : Choice W → Prop} {rest rest' : Selection W}

theorem refl (selection : Selection W) : Captured mine selection selection :=
  .inl rfl

/-- A choice, or what is left where there is none. -/
theorem elim {before after : Option (Choice W)}
    (choices : VirtualHosting.Captured mine before after) (left : Captured mine rest rest') :
    Captured mine (before.elim rest .handler) (after.elim rest' .handler) := by
  rcases choices with rfl | ⟨choice, rfl, ours⟩
  · cases after with
    | some choice => exact .refl _
    | none => exact left
  · exact .inr ⟨choice, rfl, ours⟩

theorem guard {selection : Selection W} (left : Captured mine rest rest') (meets : Bool) :
    Captured mine (if meets then selection else rest) (if meets then selection else rest') := by
  cases meets with
  | true => exact .refl selection
  | false => exact left

end Selection.Captured

namespace Version

variable {v : Version A W} {p : Pattern}

theorem value_lastResort (v : Version A W) (path : String) (directory : Bool) :
    (v.lastResort path directory).value =
      if !directory && (v.settings.directoryRedirect &&
          (v.hasDirectory (if path = "" then "/" else path)).value)
      then .redirect else (v.handlers.fallbackChoice? path).elim .none .handler := by
  unfold lastResort
  generalize (if path = "" then "/" else path) = asked
  cases directory with
  | true => cases v.handlers.fallbackChoice? path <;> rfl
  | false =>
    cases v.settings.directoryRedirect with
    | false => cases v.handlers.fallbackChoice? path <;> rfl
    | true =>
      simp only [Bool.not_false, Bool.true_and, if_true, Logged.value_bind]
      cases (v.hasDirectory asked).value with
      | true => rfl
      | false => cases v.handlers.fallbackChoice? path <;> rfl

theorem value_selectFurther (v : Version A W) (path : String) (directory deferred : Bool) :
    (v.selectFurther path directory deferred).value =
      if path = "" && v.settings.rootRedirect then .redirect
      else ((if !deferred then v.handlers.extensionChoice? path true else none).or
          (if directory then (v.welcome path).value else none)).elim
        (if deferred then .none else (v.lastResort path directory).value) .handler := by
  unfold selectFurther
  split
  · rfl
  · cases deferred with
    | true =>
      cases directory with
      | true =>
        simp only [if_true, Logged.value_bind]
        cases (v.welcome path).value <;> rfl
      | false => rfl
    | false =>
      simp only [Bool.false_eq_true, if_false, Bool.not_false, if_true]
      cases v.handlers.extensionChoice? path true with
      | some choice => rfl
      | none =>
        cases directory with
        | true =>
          simp only [if_true, Logged.value_bind]
          cases (v.welcome path).value <;> rfl
        | false => rfl

section Step

variable (ordered : v.handlers.WellFormed) (free : v.handlers.find? p = none)
  (handler : Handler W)
include ordered free

theorem captured_lastResort (path : String) (directory : Bool) :
    Selection.Captured (Choice.Takes · p handler.target) (v.lastResort path directory).value
      ((v.withHandlers (v.handlers.place p handler)).lastResort path directory).value := by
  rw [value_lastResort, value_lastResort]
  exact .guard (.elim (ordered.captured_fallback free handler path) (.refl _)) _

variable {handler} (plain : handler.flags.template = false)
include plain

theorem captured_welcomeChoice (path : String) :
    Captured (Choice.Takes · p handler.target) (v.welcomeChoice path).value
      ((v.withHandlers (v.handlers.place p handler)).welcomeChoice path).value := by
  rw [value_welcomeChoice, value_welcomeChoice]
  have generated := (ordered.captured_extension free handler path true).or
    (ordered.captured_fallback free handler path)
  have written := (ordered.captured_exact free handler path).or
    (ordered.captured_wildcard free handler plain path)
  rw [← Option.or_assoc, ← Option.or_assoc]
  exact written.or (generated.guard (v.hasFile path).value)

theorem captured_welcome (path : String) :
    Captured (Choice.Takes · p handler.target) (v.welcome path).value
      ((v.withHandlers (v.handlers.place p handler)).welcome path).value := by
  rw [value_welcome, value_welcome]
  have first (name : String) := captured_welcomeChoice ordered free plain (path ++ name)
  have second (name : String) := ordered.captured_extension free handler (path ++ name) false
  exact (Captured.findSome? first _).or (Captured.findSome? second _)

theorem captured_selectFurther (path : String) (directory deferred : Bool) :
    Selection.Captured (Choice.Takes · p handler.target)
      (v.selectFurther path directory deferred).value
      ((v.withHandlers (v.handlers.place p handler)).selectFurther path directory
        deferred).value := by
  rw [value_selectFurther, value_selectFurther]
  have found := (ordered.captured_extension free handler path true).guard (!deferred)
  have welcomed := (captured_welcome ordered free plain path).guard directory
  have left := captured_lastResort ordered free handler path directory
  exact .guard (.elim (found.or welcomed) (left.guard deferred)) _

theorem captured_selectBelow (path : String) (directory : Bool) :
    Selection.Captured (Choice.Takes · p handler.target) (v.selectBelow path directory).value
      ((v.withHandlers (v.handlers.place p handler)).selectBelow path directory).value := by
  have first := ordered.captured_exact free handler path
  have second := ordered.captured_wildcard free handler plain path
  have further := captured_selectFurther ordered free plain path directory
  unfold selectBelow
  dsimp only [withHandlers]
  rcases first with same | ⟨choice, found, ours⟩
  · rw [same]
    cases v.handlers.exactChoice? path with
    | some choice => exact .refl _
    | none =>
      rcases second with same | ⟨choice, found, ours⟩
      · dsimp only
        rw [same]
        cases v.handlers.wildcardChoice? path with
        | none => exact further false
        | some choice =>
          dsimp only
          split
          · exact further true
          · exact .refl _
      · -- the wildcard that stood back, if there was one, is not asked any more
        dsimp only
        rw [found]
        refine .inr ⟨choice, ?_, ours⟩
        simp only [ours.plain, Bool.false_and, Bool.false_eq_true, if_false, ours.settle]
        rfl
  · rw [found]
    exact .inr ⟨choice, rfl, ours⟩

/-- **One handler more**: what is selected is what was selected before, or that
handler. -/
theorem captured_select (uri : String) :
    Selection.Captured (Choice.Takes · p handler.target) (v.select uri).value
      ((v.withHandlers (v.handlers.place p handler)).select uri).value := by
  unfold select
  dsimp only [withHandlers]
  cases Text.strip? v.path uri with
  | none => exact .refl _
  | some path => exact captured_selectBelow ordered free plain path _

end Step

/-- **A handler takes requests for itself only.** Where one is added that is no
template, every request selects what it selected before, or this handler through its
own pattern; and where one is removed, only what had selected it changes. -/
theorem handlers_capture [DecidableEq W] (reached : v.handlers.Reachable) :
    (∀ p target flags, v.handlers.find? p = none → flags.template = false →
      ∃ next, v.handlers.add p target flags = .changed next ∧
        next.find? p = some ⟨target, flags⟩ ∧
        ∀ uri, ((v.withHandlers next).select uri).value = (v.select uri).value ∨
          ∃ choice, ((v.withHandlers next).select uri).value = .handler choice ∧
            choice.Takes p target) ∧
    ∀ p handler, v.handlers.find? p = some handler → handler.flags.template = false →
      ∃ next, v.handlers.remove? p = some next ∧ next.find? p = none ∧
        ∀ uri, ((v.withHandlers next).select uri).value = (v.select uri).value ∨
          ∃ choice, (v.select uri).value = .handler choice ∧ choice.Takes p handler.target := by
  have ordered := reached.wellFormed
  constructor
  · intro p target flags free plain
    exact ⟨_, HandlerSet.add_of_free free target flags, ordered.find?_place free _,
      captured_select ordered free plain⟩
  · intro p handler held plain
    obtain ⟨next, removed⟩ := ordered.exists_remove? held
    obtain ⟨free, whole⟩ := ordered.place_of_remove? held removed
    refine ⟨next, removed, free, fun uri => ?_⟩
    have smaller : (v.withHandlers next).handlers.WellFormed := ordered.remove? removed
    -- what was there before is what adding the handler again makes of what is left
    have captured := captured_select (v := v.withHandlers next) smaller free plain uri
    have back : (v.withHandlers next).withHandlers
        ((v.withHandlers next).handlers.place p handler) = v := congrArg v.withHandlers whole
    rw [back] at captured
    rcases captured with same | taken
    · exact .inl same.symm
    · exact .inr taken

/-- A template handler for every path, and a page that nobody answers for. -/
def templateOnly : Version Nat Nat where
  path := "/app"
  target := 0
  settings := { welcomeFiles := ["index.html"] }
  handlers := HandlerSet.empty.place (.wildcard "") ⟨7, { template := true }⟩

/-- A handler for the page takes the requests for the directory as well, and leaves
all others to the template handler. -/
theorem handlers_capture_templateOnly :
    let grown := templateOnly.handlers.place (.exact "/index.html") ⟨8, {}⟩
    (∃ choice, ((templateOnly.withHandlers grown).select "/app/").value = .handler choice ∧
        choice.Takes (.exact "/index.html") 8) ∧
      ((templateOnly.withHandlers grown).select "/app/x").value =
        (templateOnly.select "/app/x").value ∧
      grown.remove? (.exact "/index.html") = some templateOnly.handlers := by
  intro grown
  have reached : (HandlerSet.empty.place (.wildcard "") ⟨7, { template := true }⟩ :
      HandlerSet Nat).Reachable := .step .empty (.place (HandlerSet.find?_empty _) _)
  have free : templateOnly.handlers.find? (.exact "/index.html") = none := by decide +kernel
  have added : templateOnly.handlers.add (.exact "/index.html") 8 {} = .changed grown :=
    HandlerSet.add_of_free free 8 {}
  have reached' : (templateOnly.withHandlers grown).handlers.Reachable := reached.step (.add added)
  have removed := reached.wellFormed.remove?_place free ⟨8, {}⟩
  have plain : ((templateOnly.withHandlers grown).select "/app/x").value =
      .handler { handler := 7, kind := .path, requestPath := "/x", handlerPath := "/x",
                 template := true } := by decide +kernel
  refine ⟨?_, ?_, removed⟩
  · obtain ⟨next, added', _, captured⟩ :=
      (handlers_capture (v := templateOnly) reached).1 (.exact "/index.html") 8 {} free rfl
    obtain rfl : grown = next := by
      cases added.symm.trans added'
      rfl
    rcases captured "/app/" with same | taken
    · exact absurd same (by decide +kernel)
    · exact taken
  · obtain ⟨next, removed', _, captured⟩ :=
      (handlers_capture reached').2 (.exact "/index.html") ⟨8, {}⟩ (by decide +kernel) rfl
    obtain rfl := Option.some.inj (removed.symm.trans removed')
    rcases captured "/app/x" with same | ⟨choice, selected, taken⟩
    · exact same.symm
    · rw [plain] at selected
      cases selected
      cases taken.plain

end Version

end VirtualHosting
