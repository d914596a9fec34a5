/-
# Proofs.CheckedLookup — a lookup never faults

Looking a request up indexes the tables of hosts, mounts, versions and handlers and slices
the host name and the path at offsets that were computed from other texts: the length of the
name that was found, a slash of a path that was cut already, the first dot, the last slash
and the last dot. Here the lookup is written out step by step with these accesses, of which
each may stop it. On a router that the administrative calls lead to none does: the lookup
answers and reports as it is said elsewhere, whatever host, path and version are asked for.

* `Attempt.Yields`: a computation that no fault stops, and what it comes to;
* `WellFormed.wildcardMatch_eq`, `extensionMatch_eq`: what is left of a path behind a
  wildcard, and its extension;
* `yields_selectAttempt`: selecting a handler of one version;
* `WellFormed.mountMatch_eq`, `servingMatch_eq`, `versionMatch_eq`: the way to that version;
* `Reachable.lookups_in_range`: a whole lookup, by host or within an application.
-/
import VirtualHosting.Proofs.CheckedSearch
import VirtualHosting.Proofs.Request

namespace VirtualHosting

set_option autoImplicit false

variable {H A W : Type}

/-! ## Reports and faults -/

/-- A computation that reports on the way and may be stopped by a fault. -/
abbrev Attempt (α : Type) : Type :=
  ExceptT Fault Logged α

namespace Attempt

variable {α β : Type}

/-- An access that may fail. -/
instance : MonadLift Checked Attempt where
  monadLift x := ExceptT.mk (pure x)

/-- No fault stops the computation, and it answers and reports as `y` does. -/
def Yields (x : Attempt α) (y : Logged α) : Prop :=
  x.run = ⟨.ok y.value, y.log⟩

/-- What follows an access that succeeds. -/
theorem ok_bind (a : α) (f : α → Attempt β) :
    ((monadLift (.ok a : Checked α) : Attempt α) >>= f) = f a := rfl

theorem Yields.pure (a : α) : Yields (Pure.pure a) (Pure.pure a) := rfl

/-- A report stops nothing. -/
theorem Yields.report (y : Logged α) : Yields (monadLift y) y := by
  have lifted : ExceptT.run (monadLift y : Attempt α) = ⟨.ok y.value, y.log ++ []⟩ := rfl
  rw [Yields, lifted, List.append_nil]

theorem Yields.bind {x : Attempt α} {y : Logged α} {f : α → Attempt β} {g : α → Logged β}
    (first : x.Yields y) (rest : ∀ a, (f a).Yields (g a)) : (x >>= f).Yields (y >>= g) := by
  have goesOn : (x >>= f).run = x.run >>= ExceptT.bindCont f := rfl
  rw [Yields, goesOn, first]
  change Logged.mk (f y.value).run.value (y.log ++ (f y.value).run.log) = _
  rw [rest]
  rfl

end Attempt

/-! ## Handlers -/

namespace HandlerSet

variable {set : HandlerSet W}

/-- The handler of exactly this path. -/
def exactMatch (set : HandlerSet W) (path : String) : Checked (Option (Choice W)) := do
  match ← set.exact.exactEntry path with
  | none => return none
  | some (name, h) =>
    if path = "/" then
      return some { handler := h.target, kind := .applicationRoot, requestPath := name,
                    handlerPath := "", extraPath := "/" }
    else
      return some { handler := h.target, kind := .exact, requestPath := name, handlerPath := name }

/-- The handler of the most specific wildcard that covers the path. What the path has beyond
its name is left over. -/
def wildcardMatch (set : HandlerSet W) (path : String) : Checked (Option (Choice W)) := do
  match ← set.wildcard.coveringEntry path set.nesting with
  | none => return none
  | some (name, h) =>
    let extra ← Text.sliceFrom name.utf8ByteSize path
    return some { handler := h.target, kind := .path, requestPath := path, handlerPath := name,
                  extraPath := extra, template := h.flags.template }

/-- The handler of the extension of the path's last segment. -/
def extensionMatch (set : HandlerSet W) (path : String) (present : Bool) :
    Checked (Option (Choice W)) := do
  match ← Text.afterLast '/' path with
  | none => return none
  | some file =>
    match ← Text.afterLast '.' file with
    | none => return none
    | some suffix =>
      match ← set.extension.exactEntry suffix with
      | none => return none
      | some (_, h) =>
        if present || !h.flags.resourceOnly then
          return some { handler := h.target, kind := .extension, requestPath := path,
                        handlerPath := path }
        else return none

theorem exactMatch_eq (set : HandlerSet W) (path : String) :
    set.exactMatch path = .ok (set.exactChoice? path) := by
  rw [exactMatch, Table.exactEntry_eq, Checked.ok_bind, exactChoice?]
  cases set.exact.entry? path with
  | none => rfl
  | some e =>
    dsimp only [Option.map_some]
    split <;> rfl

/-- The name that was found starts the path, so what is left over starts where it ends. -/
theorem WellFormed.wildcardMatch_eq (ordered : set.WellFormed) (path : String) :
    set.wildcardMatch path = .ok (set.wildcardChoice? path) := by
  rw [wildcardMatch, ordered.wildcard_ordered.coveringEntry_eq, Checked.ok_bind, wildcardChoice?]
  cases found : set.wildcard.covering? path set.nesting with
  | none => rfl
  | some e =>
    have best := (ordered.wildcard_ordered.covering?_eq_some_iff ordered.nesting.1).1 found
    obtain ⟨rest, rfl⟩ := best.reaches.exists_append
    dsimp only [Option.map_some]
    rw [Text.sliceFrom_append, Text.dropLength_append]
    rfl

theorem extensionMatch_eq (set : HandlerSet W) (path : String) (present : Bool) :
    set.extensionMatch path present = .ok (set.extensionChoice? path present) := by
  rw [extensionMatch, Text.afterLast_eq (by decide), Checked.ok_bind, extensionChoice?]
  cases Text.afterLast? '/' path with
  | none => rfl
  | some file =>
    dsimp only [Option.bind_eq_bind, Option.bind_some]
    rw [Text.afterLast_eq (by decide), Checked.ok_bind]
    cases Text.afterLast? '.' file with
    | none => rfl
    | some suffix =>
      dsimp only [Option.bind_some]
      rw [Table.exactEntry_eq, Checked.ok_bind, Table.find?]
      cases set.extension.entry? suffix with
      | none => rfl
      | some e =>
        dsimp only [Option.map_some, Option.bind_some]
        split <;> rfl

end HandlerSet

/-! ## Versions -/

namespace Version

open Attempt

variable {v : Version A W}

/-- What one welcome file leads to. -/
def welcomeAttempt (v : Version A W) (candidate : String) : Attempt (Option (Choice W)) := do
  match ← v.handlers.exactMatch candidate with
  | some choice => return some choice
  | none =>
    match ← v.handlers.wildcardMatch candidate with
    | some choice => return some choice
    | none =>
      if ← v.hasFile candidate then
        match ← v.handlers.extensionMatch candidate true with
        | some choice => return some choice
        | none => return v.handlers.fallbackChoice? candidate
      else return none

/-- What the first welcome file that leads anywhere leads to. -/
def firstWelcomeAttempt (v : Version A W) (path : String) :
    List String → Attempt (Option (Choice W))
  | [] => return none
  | name :: rest => do
    match ← v.welcomeAttempt (path ++ name) with
    | some choice => return some choice
    | none => v.firstWelcomeAttempt path rest

/-- The first welcome file whose extension will do without a file. -/
def generatedMatch (v : Version A W) (path : String) : List String → Checked (Option (Choice W))
  | [] => return none
  | name :: rest => do
    match ← v.handlers.extensionMatch (path ++ name) false with
    | some choice => return some choice
    | none => v.generatedMatch path rest

/-- What the welcome files lead to for a directory. -/
def directoryAttempt (v : Version A W) (path : String) : Attempt (Option (Choice W)) := do
  match ← v.firstWelcomeAttempt path v.settings.welcomeFiles with
  | some choice => return some choice
  | none => v.generatedMatch path v.settings.welcomeFiles

/-- Selects among the patterns that are tried after exact ones and wildcards. -/
def furtherAttempt (v : Version A W) (path : String) (directory deferred : Bool) :
    Attempt (Selection W) := do
  if path = "" && v.settings.rootRedirect then return .redirect
  else
    match ← (if deferred then .ok none else v.handlers.extensionMatch path true :
        Checked (Option (Choice W))) with
    | some choice => return .handler choice
    | none =>
      match ← (if directory then v.directoryAttempt path else pure none) with
      | some choice => return .handler choice
      | none => if deferred then return .none else v.lastResort path directory

/-- Selects a handler for the path below the mount. -/
def belowAttempt (v : Version A W) (path : String) (directory : Bool) :
    Attempt (Selection W) := do
  match ← v.handlers.exactMatch path with
  | some choice => return .handler choice
  | none =>
    match ← v.handlers.wildcardMatch path with
    | none => v.furtherAttempt path directory false
    | some choice =>
      if choice.template && directory then v.furtherAttempt path directory true
      else return .handler (settle choice)

/-- Selects a handler for a request path. -/
def selectAttempt (v : Version A W) (uri : String) : Attempt (Selection W) :=
  match Text.strip? v.path uri with
  | none => pure .none
  | some path => v.belowAttempt path (Text.endsWith "/" uri)

theorem yields_welcomeAttempt (ordered : v.handlers.WellFormed) (candidate : String) :
    (v.welcomeAttempt candidate).Yields (v.welcomeChoice candidate) := by
  rw [welcomeAttempt, HandlerSet.exactMatch_eq, ok_bind, welcomeChoice]
  cases v.handlers.exactChoice? candidate with
  | some choice => exact .pure _
  | none =>
    dsimp only
    rw [ordered.wildcardMatch_eq, ok_bind]
    cases v.handlers.wildcardChoice? candidate with
    | some choice => exact .pure _
    | none =>
      refine (Yields.report (v.hasFile candidate)).bind fun present => ?_
      cases present with
      | false => exact .pure _
      | true =>
        rw [if_pos rfl, if_pos rfl, HandlerSet.extensionMatch_eq, ok_bind]
        cases v.handlers.extensionChoice? candidate true <;> exact .pure _

theorem yields_firstWelcomeAttempt (ordered : v.handlers.WellFormed) (path : String)
    (names : List String) :
    (v.firstWelcomeAttempt path names).Yields (v.firstWelcome path names) := by
  induction names with
  | nil => exact .pure _
  | cons name rest goesOn =>
    refine (yields_welcomeAttempt ordered (path ++ name)).bind fun found => ?_
    cases found with
    | some choice => exact .pure _
    | none => exact goesOn

theorem generatedMatch_eq (v : Version A W) (path : String) (names : List String) :
    v.generatedMatch path names =
      .ok (names.findSome? fun name => v.handlers.extensionChoice? (path ++ name) false) := by
  induction names with
  | nil => rfl
  | cons name rest goesOn =>
    rw [generatedMatch, HandlerSet.extensionMatch_eq, Checked.ok_bind, List.findSome?_cons]
    cases v.handlers.extensionChoice? (path ++ name) false with
    | some choice => rfl
    | none => exact goesOn

theorem yields_directoryAttempt (ordered : v.handlers.WellFormed) (path : String) :
    (v.directoryAttempt path).Yields (v.welcome path) := by
  refine (yields_firstWelcomeAttempt ordered path _).bind fun found => ?_
  cases found with
  | some choice => exact .pure _
  | none =>
    rw [generatedMatch_eq]
    exact .pure _

theorem yields_furtherAttempt (ordered : v.handlers.WellFormed) (path : String)
    (directory deferred : Bool) :
    (v.furtherAttempt path directory deferred).Yields
      (v.selectFurther path directory deferred) := by
  have extension : (if deferred then .ok none else v.handlers.extensionMatch path true :
      Checked (Option (Choice W))) =
        .ok (if deferred then none else v.handlers.extensionChoice? path true) := by
    cases deferred with
    | true => rfl
    | false => exact HandlerSet.extensionMatch_eq ..
  have welcomed : (if directory then v.directoryAttempt path else pure none).Yields
      (if directory then v.welcome path else pure none) := by
    cases directory with
    | true => exact yields_directoryAttempt ordered path
    | false => exact .pure _
  rw [furtherAttempt, selectFurther]
  split
  · exact .pure _
  · rw [extension, ok_bind]
    cases (if deferred then none else v.handlers.extensionChoice? path true) with
    | some choice => exact .pure _
    | none =>
      refine welcomed.bind fun found => ?_
      cases found with
      | some choice => exact .pure _
      | none =>
        cases deferred with
        | true => exact .pure _
        | false => exact .report _

theorem yields_belowAttempt (ordered : v.handlers.WellFormed) (path : String)
    (directory : Bool) :
    (v.belowAttempt path directory).Yields (v.selectBelow path directory) := by
  rw [belowAttempt, HandlerSet.exactMatch_eq, ok_bind, selectBelow]
  cases v.handlers.exactChoice? path with
  | some choice => exact .pure _
  | none =>
    dsimp only
    rw [ordered.wildcardMatch_eq, ok_bind]
    cases v.handlers.wildcardChoice? path with
    | none => exact yields_furtherAttempt ordered path directory false
    | some choice =>
      dsimp only
      split
      · exact yields_furtherAttempt ordered path directory true
      · exact .pure _

/-- **Selecting a handler** of one version. -/
theorem yields_selectAttempt (ordered : v.handlers.WellFormed) (uri : String) :
    (v.selectAttempt uri).Yields (v.select uri) := by
  rw [selectAttempt, select]
  cases Text.strip? v.path uri with
  | none => exact .pure _
  | some path => exact yields_belowAttempt ordered path _

end Version

/-! ## Hosts and mounts -/

/-- The mount that a request path belongs to. -/
def Mounts.mountMatch (mounts : Mounts A W) (uri : String) :
    Checked (Option (String × Application A W)) := do
  match ← mounts.applications.coveringEntry uri mounts.nesting with
  | some e => return some e
  | none => return mounts.applications.first?.filter (·.1 == "")

theorem Mounts.WellFormed.mountMatch_eq {mounts : Mounts A W} (ordered : mounts.WellFormed)
    (uri : String) : mounts.mountMatch uri = .ok (mounts.select? uri) := by
  rw [mountMatch, ordered.ordered.coveringEntry_eq, Checked.ok_bind, select?]
  cases mounts.applications.covering? uri mounts.nesting <;> rfl

namespace Router

open Attempt

variable {r : Router H A W}

/-- The entry for a host name, or for its part from the first dot on. -/
def entryMatch (r : Router H A W) (name : String) :
    Checked (Option (String × HostEntry H A W)) := do
  match ← r.entries.exactEntryFolded name with
  | some e => return some e
  | none =>
    match ← Text.fromFirst '.' name with
    | none => return none
    | some suffix => r.entries.exactEntryFolded suffix

/-- The entry that serves requests for a host name. -/
def servingMatch (r : Router H A W) (name : String) :
    Checked (Option (String × HostEntry H A W)) := do
  match ← r.entryMatch name with
  | some e => return some e
  | none =>
    match r.defaultHost with
    | none => return none
    | some standIn => r.entries.exactEntry standIn

/-- The version that serves a request. -/
def versionMatch (versions : Table (Version A W)) (requested : Option String) :
    Checked (Option (String × Version A W)) := do
  match if versions.size > 1 then requested else none with
  | none => return versions.last?
  | some label =>
    match ← versions.exactEntry label with
    | some chosen => return some chosen
    | none => return versions.last?

/-- Resolves a request path among the applications of a host. -/
def resolveOnAttempt (mounts : Mounts A W) (host : H) (hostName uri : String)
    (requested : Option String) : Attempt (Resolution H A W) := do
  match ← mounts.mountMatch uri with
  | none =>
    Logged.tell (.noApplicationMatched hostName uri)
    return { host := some host }
  | some (path, application) =>
    let reached : Resolution H A W :=
      { host := some host, applicationPath := path
        versions := if application.versions.size > 1
          then application.versions.values.map (·.target) else [] }
    match ← versionMatch application.versions requested with
    | none => return reached
    | some (label, version) =>
      let reached :=
        { reached with application := some version.target, slashCount := version.slashCount }
      if version.paused then
        Logged.tell (.pausedVersionSelected path label)
        return reached
      else return reached.complete uri (← version.selectAttempt uri)

/-- Resolves a request. -/
def resolveAttempt (r : Router H A W) (host uri : String) (requested : Option String) :
    Attempt (Resolution H A W) :=
  match if host = "" then r.defaultHost else some host with
  | none => return .unresolved
  | some name => do
    match (← r.servingMatch name).bind fun e => r.hostBehind? e.2 with
    | none =>
      Logged.tell (.noHostMatched name)
      return .unresolved
    | some serving => resolveOnAttempt serving.mounts serving.target name uri requested

/-- Resolves a request path inside the application deployed last for a target. -/
def resolveWithinAttempt (r : Router H A W) (target : A) (uri : String) :
    Attempt (Resolution H A W) :=
  match (r.index.place? target).bind r.version? with
  | none => return .unresolved
  | some version => do
    let reached : Resolution H A W :=
      { application := some version.target, slashCount := version.slashCount
        applicationPath := version.path }
    return reached.complete uri (← version.selectAttempt uri)

theorem entryMatch_eq (r : Router H A W) (name : String) :
    r.entryMatch name = .ok (r.entryFor? name) := by
  rw [entryMatch, Table.exactEntryFolded_eq, Checked.ok_bind, entryFor?]
  cases r.entries.entryFolded? name with
  | some e => rfl
  | none =>
    dsimp only
    rw [Text.fromFirst_eq (by decide), Checked.ok_bind]
    cases Text.fromFirst? '.' name with
    | none => rfl
    | some suffix => exact Table.exactEntryFolded_eq ..

theorem servingMatch_eq (r : Router H A W) (name : String) :
    r.servingMatch name = .ok (r.servingEntry? name) := by
  rw [servingMatch, entryMatch_eq, Checked.ok_bind, servingEntry?]
  cases r.entryFor? name with
  | some e => rfl
  | none =>
    cases r.defaultHost with
    | none => rfl
    | some standIn => exact Table.exactEntry_eq ..

theorem versionMatch_eq (versions : Table (Version A W)) (requested : Option String) :
    versionMatch versions requested = .ok (servingVersion? versions requested) := by
  rw [versionMatch, servingVersion?]
  by_cases several : versions.size > 1
  · rw [if_pos several, if_pos several]
    cases requested with
    | none => rfl
    | some label =>
      dsimp only
      rw [Table.exactEntry_eq, Checked.ok_bind, Option.bind_some]
      cases versions.entry? label <;> rfl
  · rw [if_neg several, if_neg several]
    rfl

theorem yields_resolveOnAttempt {mounts : Mounts A W} (ordered : mounts.WellFormed) (host : H)
    (hostName uri : String) (requested : Option String) :
    (resolveOnAttempt mounts host hostName uri requested).Yields
      (resolveOn mounts host hostName uri requested) := by
  rw [resolveOnAttempt, ordered.mountMatch_eq, ok_bind, resolveOn]
  cases mounted : mounts.select? uri with
  | none => exact (Yields.report _).bind fun _ => .pure _
  | some mount =>
    obtain ⟨path, application⟩ := mount
    have best := ordered.select?_eq_some_iff.1 mounted
    have wellFormed := ordered.applications _ _ best.mem
    dsimp only
    rw [versionMatch_eq, ok_bind]
    cases chosen : servingVersion? application.versions requested with
    | none => exact .pure _
    | some labelled =>
      obtain ⟨label, version⟩ := labelled
      have serves := wellFormed.servingVersion?_eq_some_iff.1 chosen
      have known := wellFormed.versions _ _ serves.deployed
      dsimp only
      split
      · exact (Yields.report _).bind fun _ => .pure _
      · exact (Version.yields_selectAttempt known.handlers uri).bind fun _ => .pure _

theorem Sound.yields_resolveAttempt (sound : r.Sound) (host uri : String)
    (requested : Option String) :
    (r.resolveAttempt host uri requested).Yields (r.resolve host uri requested) := by
  rw [resolveAttempt, resolve]
  cases (if host = "" then r.defaultHost else some host) with
  | none => exact .pure _
  | some name =>
    dsimp only
    rw [servingMatch_eq, ok_bind]
    cases found : r.servingEntry? name with
    | none => exact (Yields.report _).bind fun _ => .pure _
    | some e =>
      obtain ⟨serving, behind, ordered⟩ := sound.exists_hostBehind (mem_of_serving found)
      simp only [Option.bind_some, behind]
      exact yields_resolveOnAttempt ordered serving.target name uri requested

theorem Sound.yields_resolveWithinAttempt (sound : r.Sound) (target : A) (uri : String) :
    (r.resolveWithinAttempt target uri).Yields (r.resolveWithin target uri) := by
  rw [resolveWithinAttempt, resolveWithin]
  cases deployed : (r.index.place? target).bind r.version? with
  | none => exact .pure _
  | some version =>
    obtain ⟨place, _, there⟩ := Option.bind_eq_some_iff.1 deployed
    have known := sound.wellFormed.of_version? there
    exact (Version.yields_selectAttempt known.handlers uri).bind fun _ => .pure _

variable [DecidableEq H] [DecidableEq A] [DecidableEq W]

/-- **No lookup faults**: an access succeeds within its table, within its text and, to cut
it, between two characters, and on a router that administrative calls lead to every access
that a lookup makes succeeds, whatever it is asked for. -/
theorem Reachable.lookups_in_range (reachable : r.Reachable) :
    (∀ (β : Type) (t : Table β) i, (t.entryAt i).isOk = true ↔ i < t.size) ∧
    (∀ s n, (Text.byteAt s n).isOk = true ↔ n < s.utf8ByteSize) ∧
    (∀ s n, (Text.cut n s).isOk = true ↔ String.Pos.Raw.IsValid s ⟨n⟩) ∧
    (∀ host uri requested,
      (r.resolveAttempt host uri requested).Yields (r.resolve host uri requested)) ∧
    ∀ target uri, (r.resolveWithinAttempt target uri).Yields (r.resolveWithin target uri) :=
  ⟨fun _ => Table.entryAt_isOk_iff, Text.byteAt_isOk_iff, fun s n => Text.cut_isOk_iff n s,
    reachable.sound.yields_resolveAttempt, reachable.sound.yields_resolveWithinAttempt⟩

/-- Names of characters that take two bytes each. -/
def accented : Router Nat Nat Nat :=
  runAll empty
    [.deploy "*.é" 0
      { path := "/ü"
        target := 1
        settings := { welcomeFiles := ["ñ.ø"] }
        handlers := [{ pattern := "/ä/*", target := 7 }, { pattern := "*.ø", target := 8 }] }]

/-- A host that its suffix stands for, a path beyond a wildcard and a path that does not go on
with a slash. -/
theorem lookups_in_range_accented :
    (accented.resolveAttempt "ß.é" "/ü/ä/ñ" none).Yields (accented.resolve "ß.é" "/ü/ä/ñ" none) ∧
      (accented.resolve "ß.é" "/ü/ä/ñ" none).value.extraPath = "/ñ" ∧
      (accented.resolveWithinAttempt 1 "/üß.ø").Yields (accented.resolveWithin 1 "/üß.ø") := by
  have reachable : accented.Reachable := ⟨_, rfl⟩
  obtain ⟨_, _, _, asked, within⟩ := reachable.lookups_in_range
  exact ⟨asked _ _ _, by decide +kernel, within _ _⟩

end Router

end VirtualHosting
