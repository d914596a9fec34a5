/-
# Proofs.HandlerSelection — selection follows the rules

Every step of handler selection decides one rule of `Version.Precedence`: the
searches of a handler set find the handlers that the rules name, the two passes
over the welcome files are two lists of rules, and the order of the steps is the
order of the list.

* `HandlerSet.WellFormed.decides_exact`, `decides_wildcard`, `decides_extension`:
  the searches;
* `Version.decides_welcome`: the welcome files;
* `Version.precedence_iff`: the steps in their order are the rules;
* `Version.outcome_complete_select_iff`: a result shows what the first rule gives.
-/
import VirtualHosting.Proofs.HandlerSet
import VirtualHosting.Proofs.Precedence

namespace VirtualHosting

set_option autoImplicit false

variable {H A W : Type}

/-! ## The searches of a handler set -/

namespace HandlerSet.WellFormed

variable {set : HandlerSet W} (ordered : set.WellFormed) (path : String)
include ordered

theorem decides_exact : Decides (Outcome.Via (exactKind path) (set.ExactAt path))
    ((set.exactChoice? path).map Choice.outcome) := by
  have finds (h : Handler W) : set.ExactAt path h ↔ set.exact.find? path = some h :=
    ordered.exact_ordered.find?_eq_some_iff.symm
  have same : (set.exactChoice? path).map Choice.outcome =
      (set.exact.find? path).map (Outcome.chosen (exactKind path)) := by
    rw [exactChoice?, Table.find?, Option.map_map, Option.map_map]
    congr 1
    funext e
    dsimp only [Function.comp, exactKind]
    split <;> rfl
  exact (Decides.via _ finds).of_eq same

theorem wildcardAt_iff (h : Handler W) : set.WildcardAt path h ↔
    (set.wildcard.covering? path set.nesting).map (·.2) = some h := by
  simp only [WildcardAt, ← ordered.wildcard_ordered.covering?_eq_some_iff ordered.nesting.1,
    Option.map_eq_some_iff, Prod.exists, exists_eq_right]

theorem decides_wildcard : Decides (Outcome.Via .path (set.WildcardAt path))
    ((set.wildcardChoice? path).map Choice.outcome) := by
  have decided := Decides.via .path (ordered.wildcardAt_iff path)
  rw [Option.map_map] at decided
  rw [wildcardChoice?, Option.map_map]
  exact decided

/-- A wildcard whose handler does not stand back. -/
theorem decides_settled {standsBack : Handler W → Prop} {directory : Bool}
    (stands : ∀ h, standsBack h ↔ (h.flags.template && directory) = true) :
    Decides (Outcome.Via .path fun h => set.WildcardAt path h ∧ ¬ standsBack h)
      (((set.wildcardChoice? path).filter fun c => !(c.template && directory)).map
        Choice.outcome) := by
  have finds (h : Handler W) : set.WildcardAt path h ∧ ¬ standsBack h ↔
      ((set.wildcard.covering? path set.nesting).map (·.2)).filter
        (fun h => !(h.flags.template && directory)) = some h := by
    rw [Option.filter_eq_some_iff, Bool.not_eq_true', ← Bool.not_eq_true, ← stands,
      ordered.wildcardAt_iff path h]
  have decided := Decides.via .path finds
  have same : ((set.wildcardChoice? path).filter fun c => !(c.template && directory)).map
      Choice.outcome =
      (((set.wildcard.covering? path set.nesting).map (·.2)).filter
        fun h => !(h.flags.template && directory)).map (Outcome.chosen .path) := by
    rw [wildcardChoice?]
    cases set.wildcard.covering? path set.nesting with
    | none => rfl
    | some e =>
      simp only [Option.map_some, Option.filter_some]
      split <;> rfl
  exact decided.of_eq same

theorem extensionAt_iff (h : Handler W) : set.ExtensionAt path h ↔
    ((Text.afterLast? '/' path).bind fun file =>
      (Text.afterLast? '.' file).bind set.extension.find?) = some h := by
  simp only [ExtensionAt, Option.bind_eq_some_iff, Text.afterLast?_eq_some_iff,
    ordered.extension_ordered.find?_eq_some_iff]
  constructor
  · rintro ⟨front, stem, suffix, rfl, plain, plain', undotted, stored⟩
    refine ⟨stem ++ "." ++ suffix, ⟨front, ?_, ?_⟩, suffix, ⟨stem, rfl, undotted⟩, stored⟩
    · simp only [String.append_assoc]
      rfl
    · simp [plain, plain']
  · rintro ⟨_, ⟨front, rfl, plain⟩, suffix, ⟨stem, rfl, undotted⟩, stored⟩
    have plain : '/' ∉ stem.toList ∧ '/' ∉ suffix.toList := by simpa using plain
    refine ⟨front, stem, suffix, ?_, plain.1, plain.2, undotted, stored⟩
    simp only [String.append_assoc]
    rfl

theorem decides_extension (present : Bool) :
    Decides (Outcome.Via .extension fun h =>
        set.ExtensionAt path h ∧ (present || !h.flags.resourceOnly) = true)
      ((set.extensionChoice? path present).map Choice.outcome) := by
  have finds (h : Handler W) :
      set.ExtensionAt path h ∧ (present || !h.flags.resourceOnly) = true ↔
        (((Text.afterLast? '/' path).bind fun file =>
          (Text.afterLast? '.' file).bind set.extension.find?).filter
            fun h => present || !h.flags.resourceOnly) = some h := by
    rw [Option.filter_eq_some_iff, ordered.extensionAt_iff path h]
  have decided := Decides.via .extension finds
  have same : (set.extensionChoice? path present).map Choice.outcome =
      ((((Text.afterLast? '/' path).bind fun file =>
        (Text.afterLast? '.' file).bind set.extension.find?).filter
          fun h => present || !h.flags.resourceOnly).map (Outcome.chosen .extension)) := by
    simp only [extensionChoice?, Option.bind_eq_bind]
    cases Text.afterLast? '/' path with
    | none => rfl
    | some file =>
      simp only [Option.bind_some]
      cases Text.afterLast? '.' file with
      | none => rfl
      | some suffix =>
        simp only [Option.bind_some]
        cases set.extension.find? suffix with
        | none => rfl
        | some h =>
          simp only [Option.bind_some, Option.filter_some]
          split <;> rfl
  exact decided.of_eq same

/-- Where a file is known to exist, any handler of its extension is taken. -/
theorem decides_extensionAt : Decides (Outcome.Via .extension (set.ExtensionAt path))
    ((set.extensionChoice? path true).map Choice.outcome) :=
  (ordered.decides_extension path true).congr fun o => by simp [Outcome.Via]

end HandlerSet.WellFormed

theorem HandlerSet.decides_fallback (set : HandlerSet W) (path : String) :
    Decides (Outcome.Via .fallback (· ∈ set.fallback))
      ((set.fallbackChoice? path).map Choice.outcome) := by
  have decided := Decides.via .fallback fun h =>
    (Option.mem_def (a := h) (b := set.fallback))
  rw [fallbackChoice?, Option.map_map]
  exact decided

/-! ## The resources -/

theorem Probe.value_ask (probe : Probe) (path : String) :
    (probe.ask path).value = (probe.look path).getD .missing := by
  unfold ask
  cases probe.look path <;> rfl

namespace Version

variable (v : Version A W) (path : String)

theorem isFile_iff : v.IsFile path ↔ (v.hasFile path).value = true := by
  unfold IsFile hasFile
  cases v.settings.resources with
  | none => simp
  | some probe =>
    simp only [Option.mem_def, Option.some_inj, exists_eq_left', Logged.value_bind,
      Logged.value_pure, Probe.value_ask, decide_eq_true_eq]
    cases probe.look path <;> simp

theorem isDirectory_iff : v.IsDirectory path ↔ (v.hasDirectory path).value = true := by
  unfold IsDirectory hasDirectory
  cases v.settings.resources with
  | none => simp
  | some probe =>
    simp only [Option.mem_def, Option.some_inj, exists_eq_left', Logged.value_bind,
      Logged.value_pure, Probe.value_ask, decide_eq_true_eq]
    cases probe.look path <;> simp

/-! ## The welcome files -/

theorem value_welcomeChoice : (v.welcomeChoice path).value =
    (v.handlers.exactChoice? path).or ((v.handlers.wildcardChoice? path).or
      (if (v.hasFile path).value
        then (v.handlers.extensionChoice? path true).or (v.handlers.fallbackChoice? path)
        else none)) := by
  unfold welcomeChoice
  simp only [Option.orElse_eq_orElse, Option.orElse_eq_or]
  cases v.handlers.exactChoice? path with
  | some choice => rfl
  | none =>
    cases v.handlers.wildcardChoice? path with
    | some choice => rfl
    | none =>
      simp only [Option.none_or, Logged.value_bind]
      split <;> rfl

theorem value_firstWelcome (names : List String) : (v.firstWelcome path names).value =
    names.findSome? fun name => (v.welcomeChoice (path ++ name)).value := by
  induction names with
  | nil => rfl
  | cons name rest ih =>
    rw [firstWelcome, Logged.value_bind, List.findSome?_cons]
    cases (v.welcomeChoice (path ++ name)).value with
    | some choice => rfl
    | none => exact ih

theorem value_welcome : (v.welcome path).value =
    (v.settings.welcomeFiles.findSome? fun name => (v.welcomeChoice (path ++ name)).value).or
      (v.settings.welcomeFiles.findSome? fun name =>
        v.handlers.extensionChoice? (path ++ name) false) := by
  rw [welcome, Logged.value_bind, value_firstWelcome]
  cases v.settings.welcomeFiles.findSome? fun name => (v.welcomeChoice (path ++ name)).value <;> rfl

variable {v}

theorem decides_welcomePass (ordered : v.handlers.WellFormed) :
    Decides (v.WelcomePass path) ((v.welcomeChoice path).value.map Choice.outcome) := by
  have decided := (ordered.decides_exact path).firstOf_cons <|
    (ordered.decides_wildcard path).firstOf_cons <|
    ((ordered.decides_extensionAt path).guard (v.isFile_iff path)).firstOf_cons <|
    ((v.handlers.decides_fallback path).guard (v.isFile_iff path)).firstOf_cons .firstOf_nil
  refine decided.of_eq ?_
  rw [value_welcomeChoice, Option.map_or, Option.map_or]
  cases (v.hasFile path).value <;> simp [Option.map_or]

theorem decides_generatedPass (ordered : v.handlers.WellFormed) :
    Decides (v.GeneratedPass path)
      ((v.handlers.extensionChoice? path false).map Choice.outcome) :=
  (ordered.decides_extension path false).congr fun o => by simp [GeneratedPass, Outcome.Via]

theorem decides_welcome (ordered : v.handlers.WellFormed) (rel : String) :
    Decides (v.Welcome rel) ((v.welcome rel).value.map Choice.outcome) := by
  have first := Decides.firstOf_map
    (fun name => decides_welcomePass (rel ++ name) ordered) v.settings.welcomeFiles
  have second := Decides.firstOf_map
    (fun name => decides_generatedPass (rel ++ name) ordered) v.settings.welcomeFiles
  have decided := first.firstOf_cons (second.firstOf_cons .firstOf_nil)
  rw [value_welcome, Option.map_or, List.map_findSome?, List.map_findSome?]
  rw [Option.or_none] at decided
  exact decided

/-! ## The order of the steps -/

theorem outcome_lastResort (v : Version A W) (rel uri : String) (directory : Bool) :
    some ((v.lastResort rel directory).value.outcome uri) =
      (if !directory && (v.settings.directoryRedirect &&
          (v.hasDirectory (if rel = "" then "/" else rel)).value)
        then some (Outcome.redirected uri) else none).or
      (((v.handlers.fallbackChoice? rel).map Choice.outcome).or (some Outcome.unmatched)) := by
  unfold lastResort
  generalize (if rel = "" then "/" else rel) = asked
  cases directory with
  | true => cases v.handlers.fallbackChoice? rel <;> rfl
  | false =>
    cases v.settings.directoryRedirect with
    | false => cases v.handlers.fallbackChoice? rel <;> rfl
    | true =>
      simp only [Bool.not_false, Bool.true_and, if_true, Logged.value_bind]
      cases (v.hasDirectory asked).value with
      | true => rfl
      | false => cases v.handlers.fallbackChoice? rel <;> rfl

/-- Where the wildcard handler stands back, only the welcome files are left. -/
theorem outcome_selectFurther (v : Version A W) (rel uri : String) {directory deferred : Bool}
    (sound : deferred = true → directory = true) :
    some ((v.selectFurther rel directory deferred).value.outcome uri) =
      (if decide (rel = "") && v.settings.rootRedirect then some (Outcome.redirected uri)
        else none).or
      ((if !deferred then (v.handlers.extensionChoice? rel true).map Choice.outcome else none).or
      ((if directory then (v.welcome rel).value.map Choice.outcome else none).or
      ((if !deferred && (!directory && (v.settings.directoryRedirect &&
          (v.hasDirectory (if rel = "" then "/" else rel)).value))
        then some (Outcome.redirected uri) else none).or
      ((if !deferred then (v.handlers.fallbackChoice? rel).map Choice.outcome else none).or
      (some Outcome.unmatched))))) := by
  unfold selectFurther
  split
  · rfl
  · rw [Option.none_or]
    cases deferred with
    | true =>
      rw [sound rfl]
      simp only [if_true, Logged.value_bind]
      cases (v.welcome rel).value <;> rfl
    | false =>
      have rest := v.outcome_lastResort rel uri directory
      simp only [Bool.false_eq_true, if_false, Bool.not_false, if_true, Bool.true_and]
      cases v.handlers.extensionChoice? rel true with
      | some choice => rfl
      | none =>
        rw [Option.map_none, Option.none_or, ← rest]
        cases directory with
        | false => rfl
        | true =>
          simp only [if_true, Logged.value_bind]
          cases (v.welcome rel).value <;> rfl

theorem outcome_settle (choice : Choice W) : (settle choice).outcome = choice.outcome := by
  unfold settle
  split <;> rfl

/-- The steps in their order, after which nothing is set. -/
theorem outcome_selectBelow (v : Version A W) (rel uri : String) (directory : Bool) :
    let deferred := (v.handlers.wildcardChoice? rel).any fun c => c.template && directory
    some ((v.selectBelow rel directory).value.outcome uri) =
      ((v.handlers.exactChoice? rel).map Choice.outcome).or
      ((((v.handlers.wildcardChoice? rel).filter fun c => !(c.template && directory)).map
        Choice.outcome).or
      ((if decide (rel = "") && v.settings.rootRedirect then some (Outcome.redirected uri)
        else none).or
      ((if !deferred then (v.handlers.extensionChoice? rel true).map Choice.outcome else none).or
      ((if directory then (v.welcome rel).value.map Choice.outcome else none).or
      ((if !deferred && (!directory && (v.settings.directoryRedirect &&
          (v.hasDirectory (if rel = "" then "/" else rel)).value))
        then some (Outcome.redirected uri) else none).or
      ((if !deferred then (v.handlers.fallbackChoice? rel).map Choice.outcome else none).or
      (some Outcome.unmatched))))))) := by
  intro deferred
  have sound : deferred = true → directory = true := by
    intro back
    obtain ⟨choice, _, stands⟩ := (Option.any_eq_true _ _).1 back
    exact (Bool.and_eq_true_iff.1 stands).2
  rw [← v.outcome_selectFurther rel uri sound]
  unfold selectBelow
  cases v.handlers.exactChoice? rel with
  | some choice => rfl
  | none =>
    rw [Option.map_none, Option.none_or]
    cases found : v.handlers.wildcardChoice? rel with
    | none =>
      have back : deferred = false := by simp [deferred, found]
      rw [back]
      rfl
    | some choice =>
      have back : deferred = (choice.template && directory) := by simp [deferred, found]
      rw [back, Option.filter_some]
      dsimp only
      cases choice.template && directory with
      | true => rfl
      | false => exact congrArg some (outcome_settle choice)

theorem asksDirectory_iff (v : Version A W) (rel : String) :
    v.AsksDirectory rel ↔ Text.endsWith "/" (v.path ++ rel) = true :=
  Text.endsWith_eq_true_iff.symm

theorem standsBack_iff (v : Version A W) (rel : String) (h : Handler W) :
    v.StandsBack rel h ↔ (h.flags.template && Text.endsWith "/" (v.path ++ rel)) = true := by
  rw [StandsBack, asksDirectory_iff, Bool.and_eq_true]

theorem deferred_iff {v : Version A W} (ordered : v.handlers.WellFormed) (rel : String) :
    v.Deferred rel ↔ (v.handlers.wildcardChoice? rel).any
      (fun c => c.template && Text.endsWith "/" (v.path ++ rel)) = true := by
  simp only [Deferred, ordered.wildcardAt_iff, standsBack_iff, HandlerSet.wildcardChoice?,
    Option.any_map]
  cases v.handlers.wildcard.covering? rel v.handlers.nesting <;> simp

/-- The strategies are the rules in their order. -/
theorem precedence_iff {v : Version A W} (ordered : v.handlers.WellFormed) (rel : String)
    (o : Outcome W) :
    v.Precedence rel o ↔ (v.select (v.path ++ rel)).value.outcome (v.path ++ rel) = o := by
  have asks := v.asksDirectory_iff rel
  have steps := v.outcome_selectBelow rel (v.path ++ rel) (Text.endsWith "/" (v.path ++ rel))
  have eager : ¬ v.Deferred rel ↔ (!(v.handlers.wildcardChoice? rel).any
      fun c => c.template && Text.endsWith "/" (v.path ++ rel)) = true := by
    rw [deferred_iff ordered, Bool.not_eq_true', Bool.not_eq_true]
  have plain : ¬ v.AsksDirectory rel ↔ (!Text.endsWith "/" (v.path ++ rel)) = true := by
    rw [asks, Bool.not_eq_true', Bool.not_eq_true]
  have bare : rel = "" ∧ v.settings.rootRedirect = true ↔
      (decide (rel = "") && v.settings.rootRedirect) = true := by simp
  have probed : ¬ v.Deferred rel ∧ ¬ v.AsksDirectory rel ∧ v.settings.directoryRedirect = true ∧
      v.IsDirectory (if rel = "" then "/" else rel) ↔
        (!(v.handlers.wildcardChoice? rel).any
          (fun c => c.template && Text.endsWith "/" (v.path ++ rel)) &&
          (!Text.endsWith "/" (v.path ++ rel) && (v.settings.directoryRedirect &&
            (v.hasDirectory (if rel = "" then "/" else rel)).value))) = true := by
    rw [Bool.and_eq_true, Bool.and_eq_true, Bool.and_eq_true, eager, plain, isDirectory_iff]
  have decided := (ordered.decides_exact rel).firstOf_cons <|
    (ordered.decides_settled rel (v.standsBack_iff rel)).firstOf_cons <|
    ((Decides.only (.redirected (v.path ++ rel))).guard bare).firstOf_cons <|
    ((ordered.decides_extensionAt rel).guard eager).firstOf_cons <|
    ((decides_welcome ordered rel).guard asks).firstOf_cons <|
    ((Decides.only (.redirected (v.path ++ rel))).guard probed).firstOf_cons <|
    ((v.handlers.decides_fallback rel).guard eager).firstOf_cons <|
    (Decides.only .unmatched).firstOf_cons .firstOf_nil
  have below : v.select (v.path ++ rel) =
      v.selectBelow rel (Text.endsWith "/" (v.path ++ rel)) := by
    rw [select, (Text.strip?_eq_some_iff _ _ _).2 rfl]
  rw [Option.or_none, ← steps] at decided
  rw [below]
  exact (decided o).trans Option.some_inj

/-- **Selection gives what the first rule that applies gives**, for every set of
handlers that adding and removing patterns can make. -/
theorem outcome_complete_select_iff [DecidableEq W] {v : Version A W}
    (reached : v.handlers.Reachable) {start : Resolution H A W}
    (fresh : start.outcome = .unmatched) (rel : String) (o : Outcome W) :
    (start.complete (v.path ++ rel) (v.select (v.path ++ rel)).value).outcome = o ↔
      v.Precedence rel o := by
  rw [Resolution.outcome_complete fresh, precedence_iff reached.wellFormed]

/-- A template handler for every path, and a page for the root directory. -/
def templated : Version Nat Nat where
  path := "/app"
  target := 0
  settings := { welcomeFiles := ["index.html"] }
  handlers := (HandlerSet.empty.place (.wildcard "") ⟨7, { template := true }⟩).place
    (.exact "/index.html") ⟨8, {}⟩

/-- The template handler stands back for the page. -/
theorem precedence_templated :
    templated.Precedence "/" { handler := some 8, kind := some .exact } := by
  have first : (HandlerSet.empty.place (.wildcard "") ⟨7, { template := true }⟩ :
      HandlerSet Nat).Reachable := .step .empty (.place (HandlerSet.find?_empty _) _)
  have free : (HandlerSet.empty.place (.wildcard "") ⟨7, { template := true }⟩ :
      HandlerSet Nat).find? (.exact "/index.html") = none := by decide +kernel
  have reached : templated.handlers.Reachable := .step first (.place free ⟨8, {}⟩)
  have fresh : (Resolution.unresolved : Resolution Nat Nat Nat).outcome = .unmatched := rfl
  exact (outcome_complete_select_iff reached fresh "/" _).1 (by decide +kernel)

end Version

end VirtualHosting
