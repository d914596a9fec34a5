/-
# Proofs.PathParts — the parts of a path add up

A handler is told the path below its mount, which part of it its pattern claims
and what is left over. Six strategies write these parts, and a result is written
over again and again. `Proofs.Reuse` has that no piece of an earlier request or of an
abandoned match outlasts the writing, so that a result is what one choice fills in.
`Choice.Splits` says of a choice that its parts make up the path it was made for; every
strategy keeps to it, so a result shows either a whole split of what was asked for or
none.

* `HandlerSet.splits_of_exactChoice?` and its siblings: each strategy by itself;
* `Version.splits_of_select`: what selection ends on;
* `addsUp_resolve`: the parts of every result, whatever it held before.
-/
import VirtualHosting.Proofs.HandlerSelection
import VirtualHosting.Proofs.Request
import VirtualHosting.Proofs.Reuse

namespace VirtualHosting

set_option autoImplicit false

variable {H A W : Type}

theorem Text.append_dropLength {lead s : String} (leads : lead.toList <+: s.toList) :
    lead ++ dropLength lead s = s := by
  obtain ⟨rest, whole⟩ := leads
  apply String.toList_inj.1
  simp [dropLength, ← whole]

/-! ## Choices -/

/-- A choice is for this path, and its parts make the path up. -/
structure Choice.Splits (choice : Choice W) (path : String) : Prop where
  requestPath : choice.requestPath = path
  parts : choice.handlerPath ++ choice.extraPath = path

namespace HandlerSet

variable {set : HandlerSet W} {path : String} {choice : Choice W}

theorem splits_of_exactChoice? (found : set.exactChoice? path = some choice) :
    choice.Splits path := by
  obtain ⟨e, stored, rfl⟩ := Option.map_eq_some_iff.1 found
  have named : e.1 = path := eq_of_beq (Option.filter_eq_some_iff.1 stored).2
  by_cases root : path = "/"
  · simp only [if_pos root]
    exact ⟨named, by rw [root]; rfl⟩
  · simp only [if_neg root]
    exact ⟨named, by rw [named, String.append_empty]⟩

/-- The wildcard that was found is what its path starts with. -/
theorem splits_of_wildcardChoice? (ordered : set.WellFormed)
    (found : set.wildcardChoice? path = some choice) : choice.Splits path := by
  obtain ⟨e, covered, rfl⟩ := Option.map_eq_some_iff.1 found
  have best := (ordered.wildcard_ordered.covering?_eq_some_iff ordered.nesting.1).1 covered
  exact ⟨rfl, Text.append_dropLength best.reaches.isPrefix⟩

theorem splits_of_extensionChoice? {present : Bool}
    (found : set.extensionChoice? path present = some choice) : choice.Splits path := by
  simp only [extensionChoice?, Option.bind_eq_bind, Option.bind_eq_some_iff] at found
  obtain ⟨file, _, suffix, _, h, _, taken⟩ := found
  split at taken
  · obtain rfl := Option.some.inj taken
    exact ⟨rfl, String.append_empty⟩
  · cases taken

theorem splits_of_fallbackChoice? (found : set.fallbackChoice? path = some choice) :
    choice.Splits path := by
  obtain ⟨h, _, rfl⟩ := Option.map_eq_some_iff.1 found
  exact ⟨rfl, String.append_empty⟩

end HandlerSet

theorem Choice.Splits.settle {choice : Choice W} {path : String} (splits : choice.Splits path) :
    (Version.settle choice).Splits path := by
  unfold Version.settle
  split
  · exact ⟨splits.requestPath, by rw [String.append_empty, splits.requestPath]⟩
  · exact splits

/-! ## Selection -/

namespace Version

variable {v : Version A W} {path : String} {directory : Bool} {choice : Choice W}

/-- A path that selection may choose for: the one asked for or, of a directory,
that of one of its welcome files. -/
def Offers (v : Version A W) (path : String) (directory : Bool) (offered : String) : Prop :=
  ∃ tail, offered = path ++ tail ∧
    (tail = "" ∨ directory = true ∧ tail ∈ v.settings.welcomeFiles)

theorem offers_self (v : Version A W) (path : String) (directory : Bool) :
    v.Offers path directory path :=
  ⟨"", String.append_empty.symm, .inl rfl⟩

theorem splits_of_welcomeChoice (ordered : v.handlers.WellFormed)
    (found : (v.welcomeChoice path).value = some choice) : choice.Splits path := by
  rw [value_welcomeChoice] at found
  rcases Option.or_eq_some_iff.1 found with exact | ⟨_, found⟩
  · exact HandlerSet.splits_of_exactChoice? exact
  · rcases Option.or_eq_some_iff.1 found with wildcard | ⟨_, found⟩
    · exact HandlerSet.splits_of_wildcardChoice? ordered wildcard
    · split at found
      · rcases Option.or_eq_some_iff.1 found with extension | ⟨_, fallback⟩
        · exact HandlerSet.splits_of_extensionChoice? extension
        · exact HandlerSet.splits_of_fallbackChoice? fallback
      · cases found

theorem splits_of_welcome (ordered : v.handlers.WellFormed)
    (found : (v.welcome path).value = some choice) :
    ∃ name ∈ v.settings.welcomeFiles, choice.Splits (path ++ name) := by
  rw [value_welcome] at found
  rcases Option.or_eq_some_iff.1 found with first | ⟨_, second⟩
  · obtain ⟨name, listed, found⟩ := List.exists_of_findSome?_eq_some first
    exact ⟨name, listed, splits_of_welcomeChoice ordered found⟩
  · obtain ⟨name, listed, found⟩ := List.exists_of_findSome?_eq_some second
    exact ⟨name, listed, HandlerSet.splits_of_extensionChoice? found⟩

theorem splits_of_lastResort
    (found : (v.lastResort path directory).value = .handler choice) : choice.Splits path := by
  unfold lastResort at found
  extract_lets fallback at found
  -- A directory is answered with a redirect, so a handler is always the fallback.
  have chosen : fallback = .handler choice := by
    split at found
    · rw [Logged.value_bind] at found
      generalize (v.hasDirectory _).value = present at found
      cases present with
      | true => cases found
      | false => exact found
    · exact found
  unfold fallback at chosen
  split at chosen
  · rename_i known there
    obtain rfl := Selection.handler.inj chosen
    exact HandlerSet.splits_of_fallbackChoice? there
  · cases chosen

theorem splits_of_selectFurther (ordered : v.handlers.WellFormed) {deferred : Bool}
    (found : (v.selectFurther path directory deferred).value = .handler choice) :
    ∃ offered, v.Offers path directory offered ∧ choice.Splits offered := by
  unfold selectFurther at found
  split at found
  · cases found
  · split at found
    · rename_i extension there
      obtain rfl := Selection.handler.inj found
      split at there
      · cases there
      · exact ⟨path, v.offers_self path directory, HandlerSet.splits_of_extensionChoice? there⟩
    · rw [Logged.value_bind] at found
      cases welcomed : (if directory = true then v.welcome path else pure none).value with
      | some welcome =>
        rw [welcomed] at found
        obtain rfl := Selection.handler.inj found
        split at welcomed
        · rename_i asked
          obtain ⟨name, listed, splits⟩ := splits_of_welcome ordered welcomed
          exact ⟨path ++ name, ⟨name, rfl, .inr ⟨asked, listed⟩⟩, splits⟩
        · cases welcomed
      | none =>
        rw [welcomed] at found
        dsimp only at found
        split at found
        · cases found
        · exact ⟨path, v.offers_self path directory, splits_of_lastResort found⟩

theorem splits_of_selectBelow (ordered : v.handlers.WellFormed)
    (found : (v.selectBelow path directory).value = .handler choice) :
    ∃ offered, v.Offers path directory offered ∧ choice.Splits offered := by
  unfold selectBelow at found
  split at found
  · rename_i exact there
    obtain rfl := Selection.handler.inj found
    exact ⟨path, v.offers_self path directory, HandlerSet.splits_of_exactChoice? there⟩
  · split at found
    · exact splits_of_selectFurther ordered found
    · rename_i wildcard there
      split at found
      · exact splits_of_selectFurther ordered found
      · obtain rfl := Selection.handler.inj found
        have splits := HandlerSet.splits_of_wildcardChoice? ordered there
        exact ⟨path, v.offers_self path directory, splits.settle⟩

/-- Selection ends on a split of the path below the mount, or of that and a
welcome file. -/
theorem splits_of_select (ordered : v.handlers.WellFormed) {uri : String}
    (found : (v.select uri).value = .handler choice) :
    ∃ tail, v.path ++ choice.requestPath = uri ++ tail ∧
      choice.requestPath = choice.handlerPath ++ choice.extraPath ∧
      (tail = "" ∨ Text.endsWith "/" uri = true ∧ tail ∈ v.settings.welcomeFiles) := by
  unfold select at found
  split at found
  · cases found
  · rename_i path stripped
    obtain ⟨_, ⟨tail, rfl, offered⟩, splits⟩ := splits_of_selectBelow ordered found
    refine ⟨tail, ?_, splits.requestPath.trans splits.parts.symm, offered⟩
    rw [splits.requestPath, (Text.strip?_eq_some_iff _ _ _).1 stripped, String.append_assoc]

end Version

/-! ## Results -/

namespace Resolution

/-- The parts of a result add up, for a request path below a mount and the
welcome files there. -/
structure AddsUp (result : Resolution H A W) (mount uri : String) (welcome : List String) :
    Prop where
  matched : result.handler ≠ none → result.matchKind ≠ none ∧ result.redirectPath = none
  /-- The handler path and the extra path are the request path. -/
  parts : result.handler ≠ none → result.requestPath = result.handlerPath ++ result.extraPath
  /-- The mount path and the request path are what was asked for, or a welcome file
  in it. -/
  whole : result.handler ≠ none → ∃ tail, mount ++ result.requestPath = uri ++ tail ∧
    (tail = "" ∨ (∃ front, uri = front ++ "/") ∧ tail ∈ welcome)
  unmatched : result.handler = none → result.matchKind = none ∧ result.templateMatch = false ∧
    result.requestPath = "" ∧ result.handlerPath = "" ∧ result.extraPath = ""
  applicationPath : result.applicationPath =
    if result.matchKind = some .applicationRoot then "" else mount
  redirect : ∀ path, result.redirectPath = some path → path = uri ++ "/"

/-- A result that stops before its handler has no parts. -/
theorem addsUp_upTo (serving : H) (path : String) (application : Application A W)
    (version : Version A W) (uri : String) (welcome : List String) :
    (upTo serving path application version).AddsUp path uri welcome where
  matched matched := absurd rfl matched
  parts matched := absurd rfl matched
  whole matched := absurd rfl matched
  unmatched _ := ⟨rfl, rfl, rfl, rfl, rfl⟩
  applicationPath := rfl
  redirect _ redirected := nomatch redirected

theorem addsUp_hostOnly (serving : Option H) (uri : String) :
    ({ host := serving } : Resolution H A W).AddsUp "" uri [] where
  matched matched := absurd rfl matched
  parts matched := absurd rfl matched
  whole matched := absurd rfl matched
  unmatched _ := ⟨rfl, rfl, rfl, rfl, rfl⟩
  applicationPath := rfl
  redirect _ redirected := nomatch redirected

theorem addsUp_complete {version : Version A W} {mount : String}
    (ordered : version.WellFormed mount) (serving : H) (application : Application A W)
    (uri : String) :
    ((upTo serving mount application version).complete uri (version.select uri).value).AddsUp
      mount uri version.settings.welcomeFiles := by
  have nothing := addsUp_upTo serving mount application version uri version.settings.welcomeFiles
  cases selected : (version.select uri).value with
  | none => exact nothing
  | redirect =>
    exact
      { matched := fun matched => absurd rfl matched
        parts := nothing.parts
        whole := nothing.whole
        unmatched := nothing.unmatched
        applicationPath := rfl
        redirect := fun path redirected => (Option.some.inj redirected).symm }
  | handler choice =>
    obtain ⟨tail, whole, parts, offered⟩ := Version.splits_of_select ordered.handlers selected
    rw [ordered.path_eq] at whole
    rw [Text.endsWith_eq_true_iff] at offered
    exact
      { matched := fun _ => ⟨Option.some_ne_none _, rfl⟩
        parts := fun _ => parts
        whole := fun _ => ⟨tail, whole, offered⟩
        unmatched := fun missing => absurd missing (Option.some_ne_none _)
        applicationPath := by simp [complete, upTo]
        redirect := fun _ redirected => nomatch redirected }

end Resolution

/-- **The parts of every result add up**, whatever the result held before it was
used again. -/
theorem Session.addsUp_resolve [DecidableEq H] [DecidableEq A] [DecidableEq W]
    (s : Session H A W) (reachable : s.router.Reachable) (host uri : String)
    (requested : Option String) :
    let selected := s.router.requestedVersion? host uri requested
    (s.resolve host uri requested).value.resolution.AddsUp
      ((selected.map (·.1.path)).getD "") uri
      ((selected.map (·.2.settings.welcomeFiles)).getD []) := by
  intro selected
  have sound := reachable.sound
  rw [s.resolve_eq, Logged.value_map]
  dsimp only
  cases found : s.router.requestedVersion? host uri requested with
  | none =>
    obtain ⟨serving, result⟩ := Router.exists_resolve_eq_of_none sound found
    rw [result, show selected = none from found]
    exact Resolution.addsUp_hostOnly serving uri
  | some chosen =>
    obtain ⟨place, version⟩ := chosen
    obtain ⟨serving, application, result⟩ := Router.exists_resolve_eq found
    have ordered := sound.wellFormed.of_version? (sound.version?_of_requestedVersion? found)
    rw [result, show selected = some (place, version) from found]
    dsimp only
    split
    · exact Resolution.addsUp_upTo serving place.path application version uri _
    · exact Resolution.addsUp_complete ordered serving application uri

/-- A template handler that stands back for a welcome file, and a result left over
from an earlier request. -/
def Session.usedBefore : Session Nat Nat Nat where
  router := .runAll .empty
    [.deploy "h" 0
      { path := "/a"
        target := 1
        settings := { welcomeFiles := ["index.html"] }
        handlers := [{ pattern := "/docs/*", target := 7, flags := { template := true } },
          { pattern := "/docs/index.html", target := 8 }] }]
  resolution :=
    { handler := some 9
      templateMatch := true
      matchKind := some .applicationRoot
      extraPath := "/left/over"
      redirectPath := some "/left/" }

theorem Session.addsUp_resolve_usedBefore :
    (Session.usedBefore.resolve "h" "/a/docs/" none).value.resolution.AddsUp
        "/a" "/a/docs/" ["index.html"] ∧
      (Session.usedBefore.resolve "h" "/a/docs/" none).value.resolution.handlerPath =
        "/docs/index.html" := by
  have reachable : Session.usedBefore.router.Reachable := ⟨_, rfl⟩
  have chosen : (Session.usedBefore.router.requestedVersion? "h" "/a/docs/" none).map
      (fun found => (found.1.path, found.2.settings.welcomeFiles)) =
        some ("/a", ["index.html"]) := by decide +kernel
  obtain ⟨⟨place, version⟩, found, fields⟩ := Option.map_eq_some_iff.1 chosen
  have mount : place.path = "/a" := congrArg Prod.fst fields
  have welcome : version.settings.welcomeFiles = ["index.html"] := congrArg Prod.snd fields
  have sums := Session.usedBefore.addsUp_resolve reachable "h" "/a/docs/" none
  rw [found] at sums
  simp only [Option.map_some, Option.getD_some] at sums
  rw [mount, welcome] at sums
  exact ⟨sums, by decide +kernel⟩

end VirtualHosting
