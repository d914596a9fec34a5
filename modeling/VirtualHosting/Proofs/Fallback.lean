/-
# Proofs.Fallback — what the default handler leaves over

A version with a default handler answers almost every request: whatever no other rule
gives goes to the default. The exception is made on purpose. A template handler found
by a wildcard for a directory stands back for the welcome files, and the default stands
back with it; when no welcome file leads to a handler, neither comes forward again.

* `Version.precedence_unanswered`: what it takes to give nothing;
* `Version.precedence_unanswered_iff`: the one way to do so with a default handler;
* `Version.Stranded.bare_or_named`: how it can come about;
* `Reachable.fallback_catches`: every other request to a running version is answered.
-/
import VirtualHosting.Proofs.Redirects

namespace VirtualHosting

set_option autoImplicit false

variable {H A W : Type}

namespace Outcome

/-- Neither a handler nor a redirect. -/
def Unanswered (o : Outcome W) : Prop :=
  o.handler = none ∧ o.redirect = none

variable {o : Outcome W}

theorem not_unanswered_chosen (kind : MatchKind) (h : Handler W) :
    ¬ (chosen kind h).Unanswered :=
  fun nothing => nomatch nothing.1

theorem not_unanswered_redirected (uri : String) : ¬ (redirected uri : Outcome W).Unanswered :=
  fun nothing => nomatch nothing.2

theorem Via.not_unanswered {kind : MatchKind} {found : Handler W → Prop} (via : Via kind found o) :
    ¬ o.Unanswered := by
  obtain ⟨kind, h, rfl⟩ := via.exists_chosen
  exact not_unanswered_chosen kind h

end Outcome

namespace Version

/-- None of the rules gives anything for a path. -/
structure Silent (v : Version A W) (rel : String) : Prop where
  no_exact : ∀ h, ¬ v.handlers.ExactAt rel h
  stands_back : ∀ h, v.handlers.WildcardAt rel h → v.StandsBack rel h
  no_redirect : ¬ (rel = "" ∧ v.settings.rootRedirect = true)
  no_extension : ¬ v.Deferred rel → ∀ h, ¬ v.handlers.ExtensionAt rel h
  no_welcome : v.AsksDirectory rel → ∀ o, ¬ v.Welcome rel o
  no_directory : ¬ (¬ v.Deferred rel ∧ ¬ v.AsksDirectory rel ∧
    v.settings.directoryRedirect = true ∧ v.IsDirectory (if rel = "" then "/" else rel))
  no_fallback : ¬ v.Deferred rel → v.handlers.fallback = none

/-- A template handler stands back, and nothing takes its place. -/
structure Stranded (v : Version A W) (rel : String) : Prop where
  deferred : v.Deferred rel
  no_exact : ∀ h, ¬ v.handlers.ExactAt rel h
  no_redirect : ¬ (rel = "" ∧ v.settings.rootRedirect = true)
  no_welcome : ∀ o, ¬ v.Welcome rel o

variable {v : Version A W} {rel : String} {o : Outcome W}

theorem Welcome.not_unanswered (welcome : v.Welcome rel o) : ¬ o.Unanswered := by
  obtain ⟨kind, h, rfl⟩ := welcome.exists_chosen
  exact Outcome.not_unanswered_chosen kind h

/-- A path has one most specific wildcard. -/
theorem standsBack_of_deferred (ordered : v.handlers.WellFormed) (deferred : v.Deferred rel)
    {h : Handler W} (found : v.handlers.WildcardAt rel h) : v.StandsBack rel h := by
  obtain ⟨h', ⟨name, best⟩, back⟩ := deferred
  obtain ⟨name', best'⟩ := found
  cases best.unique ordered.wildcard_ordered best'
  exact back

/-- Nothing is set exactly where no rule gives anything. -/
theorem precedence_unanswered (given : v.Precedence rel o) : o.Unanswered ↔ v.Silent rel := by
  constructor
  · intro nothing
    -- None of the rules but the last gave this outcome, so none of them gives any.
    rw [Precedence] at given
    obtain ⟨no_exact, given⟩ := (firstOf_cons.1 given).resolve_left
      fun via => via.not_unanswered nothing
    obtain ⟨no_wildcard, given⟩ := (firstOf_cons.1 given).resolve_left
      fun via => via.not_unanswered nothing
    obtain ⟨no_redirect, given⟩ := (firstOf_cons.1 given).resolve_left
      fun gives => Outcome.not_unanswered_redirected _ (gives.2 ▸ nothing)
    obtain ⟨no_extension, given⟩ := (firstOf_cons.1 given).resolve_left
      fun gives => gives.2.not_unanswered nothing
    obtain ⟨no_welcome, given⟩ := (firstOf_cons.1 given).resolve_left
      fun gives => gives.2.not_unanswered nothing
    obtain ⟨no_directory, given⟩ := (firstOf_cons.1 given).resolve_left
      fun gives => Outcome.not_unanswered_redirected _ (gives.2 ▸ nothing)
    obtain ⟨no_fallback, _⟩ := (firstOf_cons.1 given).resolve_left
      fun gives => gives.2.not_unanswered nothing
    exact
      { no_exact := fun h found => no_exact _ ⟨h, found, rfl⟩
        stands_back := fun h found => by
          by_contra forward
          exact no_wildcard _ ⟨h, ⟨found, forward⟩, rfl⟩
        no_redirect := fun bare => no_redirect _ ⟨bare, rfl⟩
        no_extension := fun eager h found => no_extension _ ⟨eager, h, found, rfl⟩
        no_welcome := fun asks o welcome => no_welcome o ⟨asks, welcome⟩
        no_directory := fun probed => no_directory _ ⟨probed, rfl⟩
        no_fallback := fun eager => Option.eq_none_iff_forall_ne_some.2 fun h there =>
          no_fallback _ ⟨eager, h, there, rfl⟩ }
  · intro silent
    refine FirstOf.of_forall (P := Outcome.Unanswered) ?_ given
    intro rule listed o gives
    simp only [List.mem_cons, List.not_mem_nil, or_false] at listed
    rcases listed with rfl | rfl | rfl | rfl | rfl | rfl | rfl | rfl
    · obtain ⟨h, found, _⟩ := gives
      exact absurd found (silent.no_exact h)
    · obtain ⟨h, ⟨found, forward⟩, _⟩ := gives
      exact absurd (silent.stands_back h found) forward
    · exact absurd gives.1 silent.no_redirect
    · obtain ⟨eager, h, found, _⟩ := gives
      exact absurd found (silent.no_extension eager h)
    · exact absurd gives.2 (silent.no_welcome gives.1 o)
    · exact absurd gives.1 silent.no_directory
    · obtain ⟨eager, h, there, _⟩ := gives
      cases (silent.no_fallback eager).symm.trans there
    · rw [show o = .unmatched from gives]
      exact ⟨rfl, rfl⟩

/-- With a default handler only a deferral is silent. -/
theorem silent_iff_stranded (ordered : v.handlers.WellFormed)
    (provided : v.handlers.fallback.isSome) : v.Silent rel ↔ v.Stranded rel := by
  constructor
  · intro silent
    have deferred : v.Deferred rel := by
      by_contra eager
      rw [silent.no_fallback eager] at provided
      cases provided
    have ⟨_, _, _, asks⟩ := deferred
    exact ⟨deferred, silent.no_exact, silent.no_redirect, silent.no_welcome asks⟩
  · intro stranded
    exact
      { no_exact := stranded.no_exact
        stands_back := fun h found => standsBack_of_deferred ordered stranded.deferred found
        no_redirect := stranded.no_redirect
        no_extension := fun eager => absurd stranded.deferred eager
        no_welcome := fun _ => stranded.no_welcome
        no_directory := fun probed => probed.1 stranded.deferred
        no_fallback := fun eager => absurd stranded.deferred eager }

/-- **With a default handler the rules give nothing in one case only.** -/
theorem precedence_unanswered_iff (ordered : v.handlers.WellFormed)
    (provided : v.handlers.fallback.isSome) (given : v.Precedence rel o) :
    o.Unanswered ↔ v.Stranded rel :=
  (precedence_unanswered given).trans (silent_iff_stranded ordered provided)

/-- A welcome file that a wildcard handler reaches leads to a handler, or one before it
does. -/
theorem exists_welcome {file : String} (listed : file ∈ v.settings.welcomeFiles) (h : Handler W)
    (found : v.handlers.WildcardAt (rel ++ file) h) : ∃ o, v.Welcome rel o := by
  have matched : ∃ o, v.WelcomePass (rel ++ file) o :=
    exists_firstOf_iff.2 ⟨Outcome.Via .path (v.handlers.WildcardAt (rel ++ file)), by simp,
      _, h, found, rfl⟩
  refine exists_firstOf_iff.2 ⟨_, List.mem_cons_self, ?_⟩
  exact exists_firstOf_iff.2 ⟨_, List.mem_map_of_mem listed, matched⟩

/-- A wildcard that ends before the path reaches every welcome file behind it. So for a
path to be stranded there must be none, or the wildcard is for this very path. -/
theorem Stranded.bare_or_named (stranded : v.Stranded rel) :
    v.settings.welcomeFiles = [] ∨ rel ∈ v.handlers.wildcard.names := by
  obtain ⟨h, ⟨name, best⟩, _⟩ := stranded.deferred
  cases files : v.settings.welcomeFiles with
  | nil => exact .inl rfl
  | cons file rest =>
    right
    by_contra unnamed
    have named := Table.mem_names_of_mem best.mem
    have before : rel ≠ name := by
      rintro rfl
      exact unnamed named
    obtain ⟨⟨name', h'⟩, found⟩ :=
      Table.exists_mostSpecific named (best.reaches.append before file)
    obtain ⟨o, welcome⟩ := exists_welcome (by simp [files]) h' ⟨name', found⟩
    exact stranded.no_welcome o welcome

end Version

namespace Router

variable [DecidableEq H] [DecidableEq A] [DecidableEq W] {r : Router H A W} {host uri : String}
  {requested : Option String} {place : Coordinates} {version : Version A W}

/-- **The default handler catches whatever is left**, but for one case. -/
theorem Reachable.fallback_catches (reachable : r.Reachable)
    (found : r.requestedVersion? host uri requested = some (place, version))
    (running : version.paused = false) (provided : version.handlers.fallback.isSome) :
    ∃ rel, uri = place.path ++ rel ∧
      ((r.resolve host uri requested).value.handler = none ∧
        (r.resolve host uri requested).value.redirectPath = none ↔ version.Stranded rel) ∧
      (version.Stranded rel →
        version.settings.welcomeFiles = [] ∨ rel ∈ version.handlers.wildcard.names) := by
  have sound := reachable.sound
  have ordered := sound.wellFormed.of_version? (sound.version?_of_requestedVersion? found)
  obtain ⟨rel, whole, _, given⟩ := sound.precedence_resolve found running
  exact ⟨rel, whole, Version.precedence_unanswered_iff ordered.handlers provided given,
    Version.Stranded.bare_or_named⟩

/-- A template handler for a directory, a default handler and no welcome files. -/
def templatedDocs : Router Nat Nat Nat :=
  runAll empty [.deploy "h" 0 { path := "/a", target := 1, handlers :=
    [{ pattern := "/docs/*", target := 7, flags := { template := true } },
      { pattern := "/", target := 8 }] }]

/-- A request for the directory is stranded; another that ends in a slash is not. -/
theorem fallback_catches_templatedDocs :
    (∃ place version, templatedDocs.requestedVersion? "h" "/a/docs/" none = some (place, version) ∧
      version.paused = false ∧ version.handlers.fallback.isSome ∧ version.Stranded "/docs/") ∧
      (templatedDocs.resolve "h" "/a/x/" none).value.handler = some 8 := by
  have reachable : templatedDocs.Reachable := ⟨_, rfl⟩
  have chosen : (templatedDocs.requestedVersion? "h" "/a/docs/" none).any (fun found =>
      decide (found.1.path = "/a" ∧ found.2.paused = false ∧
        found.2.handlers.fallback.isSome = true)) = true := by decide +kernel
  obtain ⟨⟨place, version⟩, found, fields⟩ := (Option.any_eq_true _ _).1 chosen
  obtain ⟨mount, running, provided⟩ := of_decide_eq_true fields
  obtain ⟨rel, whole, stranded, _⟩ := reachable.fallback_catches found running provided
  have below : rel = "/docs/" := by
    dsimp only at mount
    rw [mount] at whole
    exact (String.append_right_inj "/a").1 whole.symm
  refine ⟨⟨place, version, found, running, provided, ?_⟩, by decide +kernel⟩
  exact below ▸ stranded.1 ⟨by decide +kernel, by decide +kernel⟩

/-- The request for the directory gets nothing, though there is a default handler. -/
theorem fallback_stands_back :
    templatedDocs.Reachable ∧
      (templatedDocs.requestedVersion? "h" "/a/docs/" none).any (fun found =>
        decide (found.2.paused = false ∧ found.2.handlers.fallback.isSome = true)) = true ∧
      (templatedDocs.resolve "h" "/a/docs/" none).value.handler = none ∧
      (templatedDocs.resolve "h" "/a/docs/" none).value.redirectPath = none :=
  ⟨⟨_, rfl⟩, by decide +kernel, by decide +kernel, by decide +kernel⟩

end Router

end VirtualHosting
