/-
# Proofs.Reuse — a resolution that was used before is as good as a new one

A lookup writes over the resolution it is handed, one field here and a few there, and a
handler that was set may be cleared again halfway. What it comes to is said without
any writing by `Version.select` and `Resolution.complete`, and the two agree. A step
that writes a handler starts from a resolution without a piece of one
(`Handlerless`): there it leaves exactly what the choice it stands for fills in, and
clearing that again leaves what there was.

* `Handlerless.setHandler_eq`, `Handlerless.clearHandler_complete`: setting a handler is
  a choice, and clearing undoes it;
* `HandlerSet.writeExact_eq`, `Version.writeWelcome_eq` and their siblings: each
  strategy by itself;
* `Version.writeHandler_eq`: handler selection;
* `Router.resolveInto_eq`, `Router.resolveWithinInto_eq`: whole lookups, whatever they
  are handed;
* `Session.resolve_eq`, `Session.resolve_recycle`: so what a reader sees depends on the
  router and the request alone.
-/
import VirtualHosting.Session

namespace VirtualHosting

set_option autoImplicit false

variable {H A W : Type}

/-! ## Setting and clearing -/

/-- What it comes to that a choice was looked for. -/
def Selection.of : Option (Choice W) → Selection W
  | .some choice => .handler choice
  | .none => .none

namespace Resolution

/-- No handler is set, and nothing is left of one. -/
structure Handlerless (result : Resolution H A W) : Prop where
  handler : result.handler = none
  templateMatch : result.templateMatch = false
  matchKind : result.matchKind = none
  requestPath : result.requestPath = ""
  handlerPath : result.handlerPath = ""
  extraPath : result.extraPath = ""

variable {result : Resolution H A W}

theorem complete_of_none (result : Resolution H A W) (uri : String) :
    result.complete uri (.of none) = result := rfl

theorem complete_of_some (result : Resolution H A W) (uri : String) (choice : Choice W) :
    result.complete uri (.of (some choice)) = result.complete uri (.handler choice) := rfl

theorem handler_complete (result : Resolution H A W) (uri : String) (choice : Choice W) :
    (result.complete uri (.handler choice)).handler = some choice.handler := rfl

theorem templateMatch_complete (result : Resolution H A W) (uri : String) (choice : Choice W) :
    (result.complete uri (.handler choice)).templateMatch = choice.template := rfl

namespace Handlerless

/-- Where no handler was, there is one after a choice exactly if something was chosen. -/
theorem isSome_complete (bare : result.Handlerless) (uri : String)
    (choice : Option (Choice W)) :
    (result.complete uri (.of choice)).handler.isSome = choice.isSome := by
  cases choice with
  | none => exact congrArg Option.isSome bare.handler
  | some choice => rfl

theorem isNone_complete (bare : result.Handlerless) (uri : String)
    (choice : Option (Choice W)) :
    (result.complete uri (.of choice)).handler.isNone = choice.isNone := by
  rw [← Option.not_isSome, bare.isSome_complete, Option.not_isSome]

/-- Where the first choice leaves no handler, the next step writes the second. -/
theorem complete_orElse (bare : result.Handlerless) (uri : String)
    {next : Resolution H A W → Resolution H A W} {first second : Option (Choice W)}
    (after : next result = result.complete uri (.of second)) :
    (if (result.complete uri (.of first)).handler.isNone
      then next (result.complete uri (.of first)) else result.complete uri (.of first)) =
      result.complete uri (.of (first <|> second)) := by
  rw [bare.isNone_complete]
  cases first with
  | none => exact after
  | some choice => rfl

/-- A handler that is set has no extra path and is no template, as long as neither was
left over. -/
theorem setHandler_eq (bare : result.Handlerless) (uri : String) (handler : W)
    (kind : MatchKind) (requestPath handlerPath : String) (below : kind ≠ .applicationRoot) :
    result.setHandler handler kind requestPath handlerPath =
      result.complete uri (.handler { handler, kind, requestPath, handlerPath }) := by
  simp only [setHandler, complete, if_neg below, bare.templateMatch, bare.extraPath]

/-- What was left over would stay. -/
example : (({ extraPath := "/x" } : Resolution Nat Nat Nat).setHandler 7 .exact "/a"
    "/a").extraPath = "/x" := rfl

theorem clearHandler_eq (bare : result.Handlerless) : result.clearHandler = result := by
  obtain ⟨handler, template, kind, requestPath, handlerPath, extraPath⟩ := bare
  cases result
  subst handler template kind requestPath handlerPath extraPath
  rfl

/-- Clearing undoes a choice, unless that took the application path away. -/
theorem clearHandler_complete (bare : result.Handlerless) (uri : String) {choice : Choice W}
    (below : choice.kind ≠ .applicationRoot) :
    (result.complete uri (.handler choice)).clearHandler = result := by
  refine Eq.trans ?_ bare.clearHandler_eq
  simp only [complete, clearHandler, if_neg below]

end Handlerless

end Resolution

open Resolution (complete_of_none complete_of_some handler_complete templateMatch_complete)

/-! ## Strategies -/

namespace HandlerSet

variable {result : Resolution H A W} {set : HandlerSet W} {path : String}

theorem writeExact_eq (bare : result.Handlerless) (uri : String) :
    set.writeExact path result = result.complete uri (.of (set.exactChoice? path)) := by
  unfold writeExact exactChoice?
  cases set.exact.entry? path with
  | none => rfl
  | some e =>
    by_cases root : path = "/"
    · simp only [Option.map_some, if_pos root, Resolution.setHandler, bare.templateMatch]
      rfl
    · simp only [Option.map_some, if_neg root]
      exact bare.setHandler_eq uri _ .exact _ _ nofun

theorem writeWildcard_eq (result : Resolution H A W) (uri : String) :
    set.writeWildcard path result = result.complete uri (.of (set.wildcardChoice? path)) := by
  unfold writeWildcard wildcardChoice?
  cases set.wildcard.covering? path set.nesting <;> rfl

theorem writeExtension_eq (bare : result.Handlerless) (uri : String) (present : Bool) :
    set.writeExtension path present result =
      result.complete uri (.of (set.extensionChoice? path present)) := by
  unfold writeExtension extensionChoice?
  cases Text.afterLast? '/' path with
  | none => rfl
  | some file =>
    simp only [Option.bind_eq_bind, Option.bind_some]
    cases Text.afterLast? '.' file with
    | none => rfl
    | some suffix =>
      simp only [Option.bind_some]
      cases set.extension.find? suffix with
      | none => rfl
      | some h =>
        simp only [Option.bind_some]
        split
        · exact bare.setHandler_eq uri _ .extension _ _ nofun
        · rfl

theorem writeFallback_eq (bare : result.Handlerless) (uri : String) :
    set.writeFallback path result = result.complete uri (.of (set.fallbackChoice? path)) := by
  unfold writeFallback fallbackChoice?
  cases set.fallback with
  | none => rfl
  | some h => exact bare.setHandler_eq uri _ .fallback _ _ nofun

theorem kind_of_wildcardChoice? {choice : Choice W}
    (found : set.wildcardChoice? path = some choice) :
    choice.kind = .path ∧ choice.requestPath = path := by
  obtain ⟨e, _, rfl⟩ := Option.map_eq_some_iff.1 found
  exact ⟨rfl, rfl⟩

theorem kind_of_fallbackChoice? {choice : Choice W}
    (found : set.fallbackChoice? path = some choice) : choice.kind = .fallback := by
  obtain ⟨h, _, rfl⟩ := Option.map_eq_some_iff.1 found
  rfl

/-- A template handler that a wildcard wrote for a directory is cleared without a trace;
for a file its parts are those of the settled choice. -/
theorem writePath_eq (bare : result.Handlerless) (uri : String) (directory : Bool) :
    set.writePath path directory result =
      match set.exactChoice? path with
      | some choice => (result.complete uri (.handler choice), false)
      | none =>
        match set.wildcardChoice? path with
        | none => (result, false)
        | some choice =>
          if choice.template && directory then (result, true)
          else (result.complete uri (.handler (Version.settle choice)), false) := by
  unfold writePath
  simp only [writeExact_eq bare uri, writeWildcard_eq _ uri]
  cases set.exactChoice? path with
  | some choice => rfl
  | none =>
    simp only [complete_of_none, bare.handler, Option.isSome_none, Bool.false_eq_true, if_false]
    cases found : set.wildcardChoice? path with
    | none => simp only [complete_of_none, bare.handler, Option.isSome_none, Bool.false_and,
        Bool.false_eq_true, if_false]
    | some choice =>
      obtain ⟨kind, whole⟩ := kind_of_wildcardChoice? found
      have below : choice.kind ≠ .applicationRoot := by
        rw [kind]
        nofun
      simp only [complete_of_some, handler_complete, templateMatch_complete,
        bare.clearHandler_complete uri below, Option.isSome_some, Bool.true_and]
      cases template : choice.template with
      | false => simp [Version.settle, template]
      | true =>
        cases directory with
        | true => rfl
        | false => simp [Version.settle, template, Resolution.complete, whole]

theorem writeMadeUp_eq (bare : result.Handlerless) (uri : String) (names : List String) :
    set.writeMadeUp path names result =
      result.complete uri (.of (names.findSome? fun name =>
        set.extensionChoice? (path ++ name) false)) := by
  induction names with
  | nil => rfl
  | cons name rest ih =>
    simp only [writeMadeUp, writeExtension_eq bare uri, bare.isSome_complete,
      List.findSome?_cons]
    cases set.extensionChoice? (path ++ name) false with
    | none => exact ih
    | some choice => rfl

end HandlerSet

/-! ## Selection -/

namespace Version

variable {result : Resolution H A W} {v : Version A W} {path : String}

theorem writeWelcomeFile_eq (bare : result.Handlerless) (uri candidate : String) :
    v.writeWelcomeFile candidate result =
      (result.complete uri <| .of ·) <$> v.welcomeChoice candidate := by
  unfold writeWelcomeFile welcomeChoice
  simp only [HandlerSet.writeExact_eq bare uri,
    bare.complete_orElse uri (HandlerSet.writeWildcard_eq result uri), bare.isSome_complete]
  cases v.handlers.exactChoice? candidate <|> v.handlers.wildcardChoice? candidate with
  | some choice => rfl
  | none =>
    simp only [complete_of_none, HandlerSet.writeExtension_eq bare uri,
      bare.complete_orElse uri (HandlerSet.writeFallback_eq bare uri), map_bind]
    refine bind_congr fun file => ?_
    cases file <;> rfl

/-- The first pass over the welcome files. A file that leads nowhere writes nothing, so
the next one starts where it did. -/
theorem writeFirstWelcome_eq (bare : result.Handlerless) (uri : String) (names : List String) :
    v.writeFirstWelcome path names result =
      (result.complete uri <| .of ·) <$> v.firstWelcome path names := by
  induction names with
  | nil => rfl
  | cons name rest ih =>
    simp only [writeFirstWelcome, firstWelcome, writeWelcomeFile_eq bare uri, map_bind,
      bind_map_left, bare.isSome_complete]
    refine bind_congr fun choice => ?_
    cases choice with
    | none => exact ih
    | some choice => rfl

theorem writeWelcome_eq (bare : result.Handlerless) (uri : String) :
    v.writeWelcome path result = (result.complete uri <| .of ·) <$> v.welcome path := by
  simp only [writeWelcome, welcome, writeFirstWelcome_eq bare uri, map_bind, bind_map_left,
    bare.isSome_complete]
  refine bind_congr fun choice => ?_
  cases choice with
  | none => exact congrArg pure (HandlerSet.writeMadeUp_eq bare uri v.settings.welcomeFiles)
  | some choice => rfl

/-- The fallback that a redirect cancels leaves nothing behind. -/
theorem writeLastResort_eq (bare : result.Handlerless) (uri : String) (directory : Bool) :
    v.writeLastResort uri path directory result =
      result.complete uri <$> v.lastResort path directory := by
  unfold writeLastResort lastResort
  have cleared : (result.complete uri (.of (v.handlers.fallbackChoice? path))).clearHandler =
      result := by
    cases found : v.handlers.fallbackChoice? path with
    | none => exact bare.clearHandler_eq
    | some choice =>
      have below : choice.kind ≠ .applicationRoot := by
        rw [HandlerSet.kind_of_fallbackChoice? found]
        nofun
      exact bare.clearHandler_complete uri below
  simp only [HandlerSet.writeFallback_eq bare uri, cleared]
  split
  · rw [map_bind]
    refine bind_congr fun found => ?_
    cases found <;> rfl
  · rfl

/-- Where a handler is set, nothing further is tried. -/
theorem writeFurther_of_handler (answered : result.handler.isSome = true) (uri : String)
    (directory deferred : Bool) :
    v.writeFurther uri path directory deferred result = pure result := by
  have closed : result.handler.isNone = false := Option.isNone_eq_false_iff.2 answered
  simp only [writeFurther, closed, Bool.false_and, Bool.false_eq_true, if_false, pure_bind]

theorem writeFurther_eq (bare : result.Handlerless) (uri : String) {directory deferred : Bool}
    (asked : deferred = true → directory = true) :
    v.writeFurther uri path directory deferred result =
      result.complete uri <$> v.selectFurther path directory deferred := by
  unfold writeFurther selectFurther
  simp only [bare.handler, Option.isNone_none, Bool.true_and, HandlerSet.writeExtension_eq bare uri]
  split
  · simp only [map_pure, Resolution.complete, bare.handler]
  · have extended : (if (!deferred) = true then
          result.complete uri (.of (v.handlers.extensionChoice? path true)) else result) =
        result.complete uri
          (.of (if deferred = true then none else v.handlers.extensionChoice? path true)) := by
      cases deferred <;> rfl
    rw [extended]
    cases (if deferred = true then none else v.handlers.extensionChoice? path true) with
    | some choice => rfl
    | none =>
      simp only [complete_of_none, bare.handler, Option.isNone_none, Bool.true_and]
      cases directory with
      | false =>
        obtain rfl : deferred = false := Bool.eq_false_iff.2 (mt asked nofun)
        simp only [Bool.or_self, Bool.not_false, Bool.false_eq_true, if_false, if_true, pure_bind,
          bare.handler, Option.isNone_none, Bool.and_self]
        exact writeLastResort_eq bare uri false
      | true =>
        simp only [Bool.or_true, if_true, writeWelcome_eq bare uri, bind_map_left, map_bind,
          bare.isNone_complete]
        refine bind_congr fun choice => ?_
        cases choice with
        | some choice => rfl
        | none =>
          cases deferred with
          | true => rfl
          | false => exact writeLastResort_eq bare uri true

theorem writeBelow_eq (bare : result.Handlerless) (uri : String) (directory : Bool) :
    v.writeBelow uri path directory result =
      result.complete uri <$> v.selectBelow path directory := by
  unfold writeBelow selectBelow
  rw [HandlerSet.writePath_eq bare uri]
  cases v.handlers.exactChoice? path with
  | some choice => exact writeFurther_of_handler rfl uri directory false
  | none =>
    cases v.handlers.wildcardChoice? path with
    | none => exact writeFurther_eq bare uri nofun
    | some choice =>
      dsimp only
      split
      · rename_i deferred
        exact writeFurther_eq bare uri fun _ => (Bool.and_eq_true_iff.1 deferred).2
      · exact writeFurther_of_handler rfl uri directory false

/-- **Selecting in place** leaves what selection by itself comes to, filled in. -/
theorem writeHandler_eq (bare : result.Handlerless) (uri : String) :
    v.writeHandler uri result = result.complete uri <$> v.select uri := by
  unfold writeHandler select
  cases Text.strip? v.path uri with
  | none => rfl
  | some path => exact writeBelow_eq bare uri _

end Version

/-! ## Lookups -/

namespace Router

theorem resolveOnInto_eq (mounts : Mounts A W) (host : H) (hostName uri : String)
    (requested : Option String) :
    resolveOnInto mounts { host := some host } hostName uri requested =
      resolveOn mounts host hostName uri requested := by
  unfold resolveOnInto resolveOn
  cases mounts.select? uri with
  | none => rfl
  | some found =>
    obtain ⟨path, application⟩ := found
    have reached : (if application.versions.size > 1 then
          ({ host := some host, applicationPath := path
             versions := application.versions.values.map (·.target) } : Resolution H A W)
        else { host := some host, applicationPath := path }) =
        { host := some host, applicationPath := path
          versions := if application.versions.size > 1
            then application.versions.values.map (·.target) else [] } := by
      split <;> rfl
    simp only [String.empty_append, List.nil_append, reached]
    cases servingVersion? application.versions requested with
    | none => rfl
    | some chosen =>
      obtain ⟨label, version⟩ := chosen
      dsimp only
      split
      · rfl
      · refine (Version.writeHandler_eq ?_ uri).trans (bind_pure_comp _ _).symm
        exact ⟨rfl, rfl, rfl, rfl, rfl, rfl⟩

/-- **A reused resolution** gets what a new one would, whatever it held. -/
theorem resolveInto_eq (r : Router H A W) (result : Resolution H A W) (host uri : String)
    (requested : Option String) :
    r.resolveInto result host uri requested = r.resolve host uri requested := by
  unfold resolveInto resolve
  rw [Resolution.recycle_eq_unresolved]
  cases (if host = "" then r.defaultHost else some host) with
  | none => rfl
  | some name =>
    dsimp only
    cases (r.servingEntry? name).bind fun e => r.hostBehind? e.2 with
    | none => rfl
    | some serving => exact resolveOnInto_eq serving.mounts serving.target name uri requested

/-- The same inside the application of a target. -/
theorem resolveWithinInto_eq (r : Router H A W) (result : Resolution H A W) (target : A)
    (uri : String) :
    r.resolveWithinInto result target uri = r.resolveWithin target uri := by
  unfold resolveWithinInto resolveWithin
  rw [Resolution.recycle_eq_unresolved]
  cases (r.index.place? target).bind r.version? with
  | none => rfl
  | some version =>
    simp only [Resolution.unresolved, String.empty_append]
    refine (Version.writeHandler_eq ?_ uri).trans (bind_pure_comp _ _).symm
    exact ⟨rfl, rfl, rfl, rfl, rfl, rfl⟩

end Router

/-! ## Readers -/

namespace Session

theorem resolve_eq (s : Session H A W) (host uri : String) (requested : Option String) :
    s.resolve host uri requested =
      ({ s with resolution := · }) <$> s.router.resolve host uri requested := by
  rw [resolve, Router.resolveInto_eq, bind_pure_comp]

theorem resolveWithin_eq (s : Session H A W) (target : A) (uri : String) :
    s.resolveWithin target uri =
      ({ s with resolution := · }) <$> s.router.resolveWithin target uri := by
  rw [resolveWithin, Router.resolveWithinInto_eq, bind_pure_comp]

/-- A lookup recycles by itself. -/
theorem resolve_recycle (s : Session H A W) (host uri : String) (requested : Option String) :
    s.recycle.resolve host uri requested = s.resolve host uri requested := by
  rw [resolve_eq, resolve_eq]
  rfl

/-- A resolution that was recycled and not used again shows nothing. -/
theorem resolution_recycle (s : Session H A W) : s.recycle.resolution = .unresolved :=
  s.resolution.recycle_eq_unresolved

end Session

end VirtualHosting
