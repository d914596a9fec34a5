/-
# Proofs.Deferral — a template handler stands back for the first welcome file

A template handler that a wildcard found for a directory leaves the request to the
welcome files. Where the wildcard ends before the directory's slash, the first of them
settles it: the wildcard reaches whatever stands behind the directory, so the path of
the first welcome file is matched, by the same wildcard if by nothing more specific.
Selection therefore never comes to ask whether a file exists.

* `HandlerSet.WellFormed.exists_match`: a path that a wildcard reaches is matched;
* `Version.welcome_eq_pure`, `select_eq_pure_of_deferred`: a first welcome file that is
  matched ends the selection, with nothing reported;
* `Version.deferral_ends_on_first`: so a deferral ends on the first welcome file.
-/
import VirtualHosting.Proofs.Capture
import VirtualHosting.Proofs.Redirects

namespace VirtualHosting

set_option autoImplicit false

variable {A W : Type}

/-! ## What a path is matched by -/

/-- The choice of what the handlers hold for a path other than the root: its exact
pattern, else the most specific wildcard. -/
structure Choice.Matches (choice : Choice W) (set : HandlerSet W) (path : String) : Prop where
  requestPath : choice.requestPath = path
  exact : ∀ h, set.ExactAt path h → choice.handler = h.target ∧ choice.kind = .exact
  wildcard : (∀ h, ¬ set.ExactAt path h) →
    ∃ h, set.WildcardAt path h ∧ choice.handler = h.target ∧ choice.kind = .path

namespace HandlerSet.WellFormed

variable {set : HandlerSet W} (ordered : set.WellFormed) {path name : String}
include ordered

theorem exactAt_iff (h : Handler W) : set.ExactAt path h ↔ set.find? (.exact path) = some h :=
  ordered.exact_ordered.find?_eq_some_iff.symm

theorem exactChoice?_eq_none (no_exact : ∀ h, ¬ set.ExactAt path h) :
    set.exactChoice? path = none := by
  rw [exactChoice?_eq, Option.map_eq_none_iff, Option.eq_none_iff_forall_ne_some]
  intro h found
  exact no_exact h ((ordered.exactAt_iff h).2 found)

/-- The most specific wildcard is the one that is chosen. -/
theorem exists_wildcardChoice? {h : Handler W} (best : set.wildcard.MostSpecific path (name, h)) :
    ∃ choice, set.wildcardChoice? path = some choice ∧ choice.requestPath = path ∧
      choice.handler = h.target ∧ choice.kind = .path ∧ choice.template = h.flags.template := by
  have search := (ordered.wildcard_ordered.covering?_eq_some_iff ordered.nesting.1).2 best
  rw [wildcardChoice?, search, Option.map_some]
  exact ⟨_, rfl, rfl, rfl, rfl, rfl⟩

/-- A path that some wildcard reaches is matched. Only an exact pattern would take it for
the application root. -/
theorem exists_match (named : name ∈ set.wildcard.names) (reach : Slash.Reaches name path)
    (rootless : path = "/" → ∀ h, ¬ set.ExactAt path h) :
    ∃ choice : Choice W, choice.Matches set path ∧
      (set.exactChoice? path).or (set.wildcardChoice? path) = some choice := by
  rw [exactChoice?_eq]
  cases found : set.find? (.exact path) with
  | some h =>
    have there := (ordered.exactAt_iff h).2 found
    have below : path ≠ "/" := fun root => rootless root h there
    have at_path : exactAt path h =
        { handler := h.target, kind := .exact, requestPath := path, handlerPath := path } := by
      rw [exactAt, if_neg below]
    refine ⟨exactAt path h, ⟨?_, ?_, ?_⟩, rfl⟩
    · rw [at_path]
    · intro h' there'
      cases ordered.exact_ordered.eq_of_mem there there' rfl
      rw [at_path]
      exact ⟨rfl, rfl⟩
    · intro no_exact
      exact absurd there (no_exact h)
  | none =>
    obtain ⟨⟨longest, h⟩, best⟩ := Table.exists_mostSpecific named reach
    obtain ⟨choice, led, asked, target, kind, _⟩ := ordered.exists_wildcardChoice? best
    refine ⟨choice, ⟨asked, ?_, ?_⟩, ?_⟩
    · intro h' there
      rw [ordered.exactAt_iff, found] at there
      cases there
    · intro _
      exact ⟨h, ⟨longest, best⟩, target, kind⟩
    · rw [Option.map_none, Option.none_or, led]

end HandlerSet.WellFormed

/-! ## The steps up to the first welcome file -/

namespace Version

variable {v other : Version A W} {rel first : String} {choice lead : Choice W}

/-- A first welcome file that is matched is all that the welcome files come to. -/
theorem welcome_eq_pure (files : v.settings.welcomeFiles.head? = some first)
    (matched : (v.handlers.exactChoice? (rel ++ first)).or
      (v.handlers.wildcardChoice? (rel ++ first)) = some choice) :
    v.welcome rel = pure (some choice) := by
  obtain ⟨later, listed⟩ := List.head?_eq_some_iff.1 files
  have given : v.welcomeChoice (rel ++ first) = pure (some choice) := by
    rw [welcomeChoice, Option.orElse_eq_orElse, Option.orElse_eq_or, matched]
  have ended : v.firstWelcome rel v.settings.welcomeFiles = pure (some choice) := by
    rw [listed, firstWelcome, given]
    rfl
  rw [welcome, ended]
  rfl

/-- Once a template handler has stood back, what the welcome files come to is selected. -/
theorem select_eq_pure_of_deferred (below : rel ≠ "") (asks : v.AsksDirectory rel)
    (no_exact : v.handlers.exactChoice? rel = none)
    (led : v.handlers.wildcardChoice? rel = some lead) (template : lead.template = true)
    (welcomed : v.welcome rel = pure (some choice)) :
    v.select (v.path ++ rel) = pure (.handler choice) := by
  have directory := (v.asksDirectory_iff rel).1 asks
  have further : v.selectFurther rel true true = pure (.handler choice) := by
    simp only [selectFurther, below, decide_false, Bool.false_and, Bool.false_eq_true, if_false,
      if_true, welcomed]
    rfl
  rw [select, (Text.strip?_eq_some_iff _ _ _).2 rfl]
  simp only [selectBelow, no_exact, led, template, directory, Bool.and_self, if_true]
  exact further

/-- Two versions agree on the mount path, the exact patterns, the wildcards and the first
welcome file. All else may differ: resources, extensions, fallback, later welcome files. -/
structure AlikeToFirst (v other : Version A W) : Prop where
  path : other.path = v.path
  exact : other.handlers.exact = v.handlers.exact
  wildcard : other.handlers.wildcard = v.handlers.wildcard
  nesting : other.handlers.nesting = v.handlers.nesting
  first : other.settings.welcomeFiles.head? = v.settings.welcomeFiles.head?

theorem AlikeToFirst.refl (v : Version A W) : v.AlikeToFirst v :=
  ⟨rfl, rfl, rfl, rfl, rfl⟩

namespace AlikeToFirst

variable (alike : v.AlikeToFirst other) (path : String)
include alike

theorem exactChoice?_eq :
    other.handlers.exactChoice? path = v.handlers.exactChoice? path := by
  rw [HandlerSet.exactChoice?, HandlerSet.exactChoice?, alike.exact]

theorem wildcardChoice?_eq :
    other.handlers.wildcardChoice? path = v.handlers.wildcardChoice? path := by
  rw [HandlerSet.wildcardChoice?, HandlerSet.wildcardChoice?, alike.wildcard, alike.nesting]

end AlikeToFirst

/-- Versions that are alike select the same, once a template handler has stood back and
the first welcome file is matched. -/
theorem AlikeToFirst.select_eq_pure (alike : v.AlikeToFirst other) (below : rel ≠ "")
    (asks : v.AsksDirectory rel) (files : v.settings.welcomeFiles.head? = some first)
    (no_exact : v.handlers.exactChoice? rel = none)
    (led : v.handlers.wildcardChoice? rel = some lead) (template : lead.template = true)
    (matched : (v.handlers.exactChoice? (rel ++ first)).or
      (v.handlers.wildcardChoice? (rel ++ first)) = some choice) :
    other.select (v.path ++ rel) = pure (.handler choice) := by
  have welcomed : other.welcome rel = pure (some choice) := by
    apply welcome_eq_pure (alike.first.trans files)
    rw [alike.exactChoice?_eq, alike.wildcardChoice?_eq, matched]
  rw [← alike.path]
  apply select_eq_pure_of_deferred below
  · rwa [AsksDirectory, alike.path]
  · rw [alike.exactChoice?_eq, no_exact]
  · rw [alike.wildcardChoice?_eq, led]
  · exact template
  · exact welcomed

/-! ## A deferral -/

/-- Only an empty name leads from a directory to the application root. -/
theorem eq_empty_of_append_eq_root {front : String} (root : front ++ "/" ++ first = "/") :
    first = "" := by
  have letters := congrArg String.length root
  rw [String.length_append, String.length_append] at letters
  have bare : first.length = 0 := by omega
  exact String.length_eq_zero_iff.1 bare

variable [DecidableEq W] {name : String} {later : List String} {h : Handler W}

/-- **A deferral ends on the first welcome file**, by its exact pattern or else by a
wildcard, whatever the resources, the extensions, the fallback and the later welcome
files are, and without a word to the log. -/
theorem deferral_ends_on_first (reached : v.handlers.Reachable)
    (unslashed : ¬ ∃ front, v.path = front ++ "/")
    (files : v.settings.welcomeFiles = first :: later) (asks : v.AsksDirectory rel)
    (no_exact : ∀ h, ¬ v.handlers.ExactAt rel h)
    (best : v.handlers.wildcard.MostSpecific rel (name, h)) (template : h.flags.template = true)
    (plain : ¬ ∃ front, name = front ++ "/") :
    ∃ choice : Choice W, choice.Matches v.handlers (rel ++ first) ∧
      v.select (v.path ++ rel) = pure (.handler choice) ∧
      ∀ other : Version A W, v.AlikeToFirst other →
        other.select (v.path ++ rel) = pure (.handler choice) := by
  have ordered := reached.wellFormed
  have below : rel ≠ "" := by
    rintro rfl
    obtain ⟨front, whole⟩ := asks
    rw [String.append_empty] at whole
    exact unslashed ⟨front, whole⟩
  obtain ⟨front, rfl⟩ : ∃ front, rel = front ++ "/" := by
    obtain ⟨before, whole⟩ := asks
    exact (Slash.exists_of_append_eq whole).resolve_left below
  -- The wildcard ends before the slash of the directory, so it reaches whatever follows.
  have before : front ++ "/" ≠ name := fun whole => plain ⟨front, whole.symm⟩
  have further := best.reaches.append before first
  -- A candidate `/` is the directory itself, under an empty welcome file name.
  have rootless : front ++ "/" ++ first = "/" →
      ∀ h, ¬ v.handlers.ExactAt (front ++ "/" ++ first) h := by
    intro root
    rwa [eq_empty_of_append_eq_root root, String.append_empty]
  obtain ⟨choice, fits, matched⟩ :=
    ordered.exists_match (Table.mem_names_of_mem best.mem) further rootless
  obtain ⟨lead, led, _, _, _, standsBack⟩ := ordered.exists_wildcardChoice? best
  have selects (other : Version A W) (alike : v.AlikeToFirst other) :
      other.select (v.path ++ (front ++ "/")) = pure (.handler choice) := by
    apply alike.select_eq_pure below asks
    · rw [files, List.head?_cons]
    · exact ordered.exactChoice?_eq_none no_exact
    · exact led
    · rw [standsBack, template]
    · exact matched
  exact ⟨choice, fits, selects v (.refl v), selects⟩

/-- A template handler beside an extension and a default, with resources that decline
every question. -/
def deferring : Version Nat Nat where
  path := "/app"
  target := 0
  settings := { resources := some ⟨fun _ => none⟩, welcomeFiles := ["guide/start.html", "index"] }
  handlers := ((HandlerSet.empty.place .fallback ⟨9, {}⟩).place (.extension "html") ⟨8, {}⟩).place
    (.wildcard "/docs") ⟨7, { template := true }⟩

/-- The template handler takes the first welcome file itself. -/
theorem deferral_ends_on_first_docs :
    ∃ choice : Choice Nat, deferring.select "/app/docs/" = pure (.handler choice) ∧
      choice.handler = 7 ∧ choice.kind = .path ∧
      choice.requestPath = "/docs/guide/start.html" := by
  have free : (HandlerSet.empty.place .fallback ⟨9, {}⟩ : HandlerSet Nat).find?
      (.extension "html") = none := by decide +kernel
  have free' : ((HandlerSet.empty.place .fallback ⟨9, {}⟩).place (.extension "html") ⟨8, {}⟩ :
      HandlerSet Nat).find? (.wildcard "/docs") = none := by decide +kernel
  have reached : deferring.handlers.Reachable :=
    .step (.step (.step .empty (.place (HandlerSet.find?_empty .fallback) _)) (.place free _))
      (.place free' _)
  have ordered := reached.wellFormed
  have best : deferring.handlers.wildcard.MostSpecific "/docs/" ("/docs", ⟨7, ⟨true, false⟩⟩) :=
    (ordered.wildcard_ordered.covering?_eq_some_iff ordered.nesting.1).1 (by decide +kernel)
  have no_exact (h : Handler Nat) : ¬ deferring.handlers.ExactAt "/docs/" h := by
    intro there
    have nothing : deferring.handlers.find? (.exact "/docs/") = none := by decide +kernel
    rw [ordered.exactAt_iff, nothing] at there
    cases there
  obtain ⟨choice, fits, selects, _⟩ := deferral_ends_on_first reached
    (mt Text.endsWith_eq_true_iff.2 (by decide +kernel)) rfl ⟨"/app/docs", by decide +kernel⟩
    no_exact best rfl (mt Text.endsWith_eq_true_iff.2 (by decide +kernel))
  have reaches : (deferring.select "/app/docs/").value = .handler
      { handler := 7, kind := .path, requestPath := "/docs/guide/start.html",
        handlerPath := "/docs", extraPath := "/guide/start.html", template := true } := by
    decide +kernel
  have whole : deferring.path ++ "/docs/" = "/app/docs/" := by decide +kernel
  rw [whole] at selects
  rw [selects, Logged.value_pure] at reaches
  cases reaches
  exact ⟨_, selects, rfl, rfl, fits.requestPath⟩

end Version

end VirtualHosting
