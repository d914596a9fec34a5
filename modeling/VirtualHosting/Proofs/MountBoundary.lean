/-
# Proofs.MountBoundary — requests that only share letters with a mount

A request for `/apple` belongs to no mount `/app`, and choosing a mount respects that.
Whoever holds an application asks it directly, and then the mount path is taken off the
request path as a text is taken off a text: `/apple` becomes `le`, which no exact path
and no wildcard with a lead can match, but a handler for everything can, and the
resources are asked about it. A version keeps within its mount only if it has no handler
of that kind (`Version.Sealed`).

* `Version.silent_of_sealed`, `Version.sealed_of_silent`: what such a request needs to
  be answered;
* `Version.asksOf_select`: what selection asks the resources about;
* `Router.Reachable.within_boundary`: where a version keeps within its mount, and which
  paths it asks about.
-/
import VirtualHosting.Proofs.Fallback
import VirtualHosting.Proofs.Written

namespace VirtualHosting

set_option autoImplicit false

variable {H A W : Type}

/-! ## Paths that stray -/

namespace Slash

variable {name path rel : String}

/-- What follows a mount path goes on within its last segment. -/
def Strays (rel : String) : Prop :=
  rel ≠ "" ∧ ¬ ∃ rest, rel = "/" ++ rest

/-- A path that strays belongs to no mount but the root. -/
theorem reaches_append_iff : Reaches name (name ++ rel) ↔ name = "" ∨ ¬ Strays rel := by
  constructor
  · rintro (bare | same | ⟨rest, split⟩)
    · exact .inl bare
    · have bare : rel = "" := String.append_eq_left_iff.1 same
      exact .inr fun strays => strays.1 bare
    · rw [String.append_assoc, String.append_right_inj] at split
      exact .inr fun strays => strays.2 ⟨rest, split⟩
  · rintro (bare | settled)
    · exact .inl bare
    · by_cases bare : rel = ""
      · rw [bare, String.append_empty]
        exact reaches_self name
      · by_contra missed
        refine settled ⟨bare, fun ⟨rest, split⟩ => missed (.inr (.inr ⟨rest, ?_⟩))⟩
        rw [split, String.append_assoc]

theorem strays_iff : Strays rel ↔ ∃ c cs, rel.toList = c :: cs ∧ c ≠ '/' := by
  constructor
  · rintro ⟨some_left, unled⟩
    cases letters : rel.toList with
    | nil => exact absurd (String.toList_eq_nil_iff.1 letters) some_left
    | cons c cs =>
      refine ⟨c, cs, rfl, ?_⟩
      rintro rfl
      exact unled ⟨String.ofList cs, String.toList_inj.1 (by simp [letters])⟩
  · rintro ⟨c, cs, letters, other⟩
    constructor
    · rintro rfl
      cases letters
    · rintro ⟨rest, rfl⟩
      have first : '/' :: rest.toList = c :: cs := by simpa using letters
      exact other (List.cons.inj first).1.symm

theorem Strays.append (strays : Strays rel) (more : String) : Strays (rel ++ more) := by
  obtain ⟨c, cs, letters, other⟩ := strays_iff.1 strays
  exact strays_iff.2 ⟨c, cs ++ more.toList, by simp [letters], other⟩

/-- Only the name for everything reaches a path that strays. -/
theorem Strays.not_reaches (strays : Strays path) (led : ∃ rest, name = "/" ++ rest) :
    ¬ Reaches name path := by
  obtain ⟨rest, rfl⟩ := led
  rintro (broken | rfl | ⟨rest', rfl⟩)
  · have letters := congrArg String.toList broken
    simp at letters
  · exact strays.2 ⟨rest, rfl⟩
  · exact strays.2 ⟨rest ++ "/" ++ rest', by simp only [String.append_assoc]⟩

end Slash

/-! ## Handlers for everything -/

namespace Version

/-- No handler of the version takes a path whatever its first letter is: there is no
pattern `/*` and no `/`, every extension has a dot and so is never the last of a file
name, and no path that strays is known for a directory. -/
structure Sealed (v : Version A W) : Prop where
  no_catchAll : "" ∉ v.handlers.wildcard.names
  dotted : ∀ suffix ∈ v.handlers.extension.names, '.' ∈ suffix.toList
  no_fallback : v.handlers.fallback = none
  no_directory : v.settings.directoryRedirect = true → ∀ path, v.IsDirectory path →
    Slash.Strays path → ∃ front, path = front ++ "/"

variable {v : Version A W} {rel path : String}

/-- A path that strays is matched by no handler of a version that is sealed. -/
theorem Sealed.unmatched (sealed : v.Sealed) (ordered : v.handlers.WellFormed)
    (known : v.handlers.Written) (strays : Slash.Strays path) (h : Handler W) :
    ¬ v.handlers.ExactAt path h ∧ ¬ v.handlers.WildcardAt path h ∧
      ¬ v.handlers.ExtensionAt path h := by
  refine ⟨?_, ?_, ?_⟩
  · intro stored
    exact strays.2 (known.slash_of_exact ordered stored)
  · rintro ⟨name, best⟩
    have named := Table.mem_names_of_mem best.mem
    rcases known.slash_of_wildcard ordered named with rfl | led
    · exact sealed.no_catchAll named
    · exact strays.not_reaches led best.reaches
  · rintro ⟨front, stem, suffix, _, _, _, undotted, stored⟩
    exact undotted (sealed.dotted suffix (Table.mem_names_of_mem stored))

theorem Sealed.not_welcome (sealed : v.Sealed) (ordered : v.handlers.WellFormed)
    (known : v.handlers.Written) (strays : Slash.Strays rel) (o : Outcome W) :
    ¬ v.Welcome rel o := by
  intro welcome
  refine FirstOf.of_forall (P := fun _ => False) ?_ welcome
  intro passes listed o gives
  simp only [List.mem_cons, List.not_mem_nil, or_false] at listed
  rcases listed with rfl | rfl
  · refine FirstOf.of_forall_map (P := fun _ => False) ?_ gives
    intro name o pass
    have none_matches := sealed.unmatched ordered known (strays.append name)
    refine FirstOf.of_forall (P := fun _ => False) ?_ pass
    intro rule listed o gives
    simp only [List.mem_cons, List.not_mem_nil, or_false] at listed
    rcases listed with rfl | rfl | rfl | rfl
    · obtain ⟨h, found, _⟩ := gives
      exact (none_matches h).1 found
    · obtain ⟨h, found, _⟩ := gives
      exact (none_matches h).2.1 found
    · obtain ⟨_, h, found, _⟩ := gives
      exact (none_matches h).2.2 found
    · obtain ⟨_, h, there, _⟩ := gives
      cases sealed.no_fallback.symm.trans there
  · refine FirstOf.of_forall_map (P := fun _ => False) ?_ gives
    intro name o pass
    obtain ⟨h, ⟨found, _⟩, _⟩ := pass
    exact (sealed.unmatched ordered known (strays.append name) h).2.2 found

theorem silent_of_sealed (sealed : v.Sealed) (ordered : v.handlers.WellFormed)
    (known : v.handlers.Written) (strays : Slash.Strays rel) : v.Silent rel where
  no_exact h := (sealed.unmatched ordered known strays h).1
  stands_back h found := absurd found (sealed.unmatched ordered known strays h).2.1
  no_redirect bare := strays.1 bare.1
  no_extension _ h := (sealed.unmatched ordered known strays h).2.2
  no_welcome _ := sealed.not_welcome ordered known strays
  no_directory := by
    rintro ⟨_, plain, redirects, directory⟩
    rw [if_neg strays.1] at directory
    obtain ⟨front, slashed⟩ := sealed.no_directory redirects rel directory strays
    exact plain ⟨v.path ++ front, by rw [slashed, String.append_assoc]⟩
  no_fallback _ := sealed.no_fallback

/-- A path that asks for no directory is answered if anything is there for it. -/
theorem not_deferred_of_plain (plain : ¬ v.AsksDirectory rel) : ¬ v.Deferred rel := by
  rintro ⟨_, _, _, asks⟩
  exact plain asks

/-- A path that strays asks for a directory only by its own slash. -/
theorem not_asksDirectory_of_strays (strays : Slash.Strays rel)
    (plain : ¬ ∃ front, rel = front ++ "/") : ¬ v.AsksDirectory rel := by
  rintro ⟨front, whole⟩
  exact (Slash.exists_of_append_eq whole).elim strays.1 plain

theorem sealed_of_silent (known : v.handlers.Written) (ordered : v.handlers.WellFormed)
    (silent : ∀ rel, Slash.Strays rel → v.Silent rel) : v.Sealed := by
  have strays : Slash.Strays "x" := Slash.strays_iff.2 ⟨'x', [], rfl, by decide⟩
  have plain : ¬ v.AsksDirectory "x" := by
    apply not_asksDirectory_of_strays strays
    rw [← Text.endsWith_eq_true_iff]
    decide +kernel
  refine ⟨?_, ?_, ?_, ?_⟩
  · intro named
    have reached : Slash.Reaches "" "x" := .inl rfl
    obtain ⟨⟨name, h⟩, best⟩ := Table.exists_mostSpecific named reached
    exact plain ((silent "x" strays).stands_back h ⟨name, best⟩).2
  · intro suffix named
    by_contra undotted
    obtain ⟨h, stored⟩ := Table.mem_names_iff.1 named
    have unslashed := known.plain_of_extension ordered named
    -- the file `a` with the extension, one segment on
    have strays' : Slash.Strays ("x/a." ++ suffix) :=
      Slash.strays_iff.2 ⟨'x', '/' :: 'a' :: '.' :: suffix.toList, by simp, by decide⟩
    have plain' : ¬ v.AsksDirectory ("x/a." ++ suffix) := by
      apply not_asksDirectory_of_strays strays'
      rintro ⟨front, split⟩
      rcases Slash.exists_of_append_eq split with rfl | ⟨front', rfl⟩
      · have last := congrArg (fun s => s.toList.getLast?) split
        simp at last
      · simp at unslashed
    refine (silent _ strays').no_extension (not_deferred_of_plain plain') h ?_
    refine ⟨"x", "a", suffix, ?_, by decide, unslashed, undotted, stored⟩
    have lead : "x/a." = "x" ++ "/" ++ "a" ++ "." := by decide +kernel
    rw [lead]
  · exact (silent "x" strays).no_fallback (not_deferred_of_plain plain)
  · intro redirects path directory strays'
    by_contra unslashed
    have plain' := not_asksDirectory_of_strays (v := v) strays' unslashed
    refine (silent path strays').no_directory
      ⟨not_deferred_of_plain plain', plain', redirects, ?_⟩
    rwa [if_neg strays'.1]

end Version

/-! ## What the resources are asked -/

/-- Whatever is reported on the way is a question of these that was declined. -/
def Logged.AsksOf {α : Type} (paths : String → Prop) (x : Logged α) : Prop :=
  ∀ e ∈ x.log, ∃ path, e = .probeRefused path ∧ paths path

namespace Logged.AsksOf

variable {α β : Type} {paths : String → Prop}

theorem pure (a : α) : (Pure.pure a : Logged α).AsksOf paths :=
  fun _ reported => nomatch reported

theorem bind {x : Logged α} {f : α → Logged β} (first : x.AsksOf paths)
    (rest : ∀ a, (f a).AsksOf paths) : (x >>= f).AsksOf paths := by
  intro e reported
  rw [log_bind, List.mem_append] at reported
  exact reported.elim (first e) (rest x.value e)

theorem ask (probe : Probe) {path : String} (among : paths path) :
    (probe.ask path).AsksOf paths := by
  intro e reported
  unfold Probe.ask at reported
  split at reported
  · cases reported
  · exact ⟨path, by simpa using reported, among⟩

end Logged.AsksOf

/-- A probe that answers as another does, but declines one path. -/
def Probe.declining (probe : Probe) (path : String) : Probe where
  look other := if other = path then none else probe.look other

namespace Version

open Logged

/-- The version with resources that decline one path. -/
def declining (v : Version A W) (path : String) : Version A W :=
  { v with settings := { v.settings with
      resources := v.settings.resources.map (·.declining path) } }

/-- Selection for a request hands a path to the resources: it is reported when they
decline this path and no other. -/
def Asks (v : Version A W) (uri path : String) : Prop :=
  .probeRefused path ∈ ((v.declining path).select uri).log

instance (v : Version A W) (uri path : String) : Decidable (v.Asks uri path) :=
  inferInstanceAs (Decidable (_ ∈ _))

/-- The path itself, as it is or as the root, and that of a welcome file behind it. -/
def MayAsk (v : Version A W) (rel path : String) : Prop :=
  path = (if rel = "" then "/" else rel) ∨
    v.AsksDirectory rel ∧ ∃ name ∈ v.settings.welcomeFiles, path = rel ++ name

variable (v : Version A W) {rel path : String} {paths : String → Prop}

theorem asksOf_hasFile (among : paths path) : (v.hasFile path).AsksOf paths := by
  unfold hasFile
  split
  · exact .pure _
  · exact .bind (.ask _ among) fun _ => .pure _

theorem asksOf_hasDirectory (among : paths path) : (v.hasDirectory path).AsksOf paths := by
  unfold hasDirectory
  split
  · exact .pure _
  · exact .bind (.ask _ among) fun _ => .pure _

theorem asksOf_welcomeChoice (among : paths path) : (v.welcomeChoice path).AsksOf paths := by
  unfold welcomeChoice
  split
  · exact .pure _
  · refine .bind (v.asksOf_hasFile among) fun there => ?_
    split <;> exact .pure _

theorem asksOf_firstWelcome {names : List String} (among : ∀ name ∈ names, paths (rel ++ name)) :
    (v.firstWelcome rel names).AsksOf paths := by
  induction names with
  | nil => exact .pure _
  | cons name rest ih =>
    rw [List.forall_mem_cons] at among
    refine .bind (v.asksOf_welcomeChoice among.1) fun choice => ?_
    cases choice with
    | some choice => exact .pure _
    | none => exact ih among.2

theorem asksOf_welcome (among : ∀ name ∈ v.settings.welcomeFiles, paths (rel ++ name)) :
    (v.welcome rel).AsksOf paths := by
  refine .bind (v.asksOf_firstWelcome among) fun choice => ?_
  split <;> exact .pure _

theorem asksOf_lastResort (directory : Bool) (among : paths (if rel = "" then "/" else rel)) :
    (v.lastResort rel directory).AsksOf paths := by
  unfold lastResort
  dsimp only
  split
  · refine .bind (v.asksOf_hasDirectory among) fun there => ?_
    split <;> exact .pure _
  · exact .pure _

theorem asksOf_selectFurther (directory deferred : Bool)
    (self : paths (if rel = "" then "/" else rel))
    (welcome : directory = true → ∀ name ∈ v.settings.welcomeFiles, paths (rel ++ name)) :
    (v.selectFurther rel directory deferred).AsksOf paths := by
  unfold selectFurther
  split
  · exact .pure _
  · split
    · exact .pure _
    · refine .bind ?_ fun choice => ?_
      · split
        · rename_i asks
          exact v.asksOf_welcome (welcome asks)
        · exact .pure _
      · split
        · exact .pure _
        · split
          · exact .pure _
          · exact v.asksOf_lastResort directory self

/-- **All that selection asks about** is the path below the mount and the welcome files
behind it. -/
theorem asksOf_select (rel : String) : (v.select (v.path ++ rel)).AsksOf (v.MayAsk rel) := by
  have self : v.MayAsk rel (if rel = "" then "/" else rel) := .inl rfl
  have welcome (asks : Text.endsWith "/" (v.path ++ rel) = true) :
      ∀ name ∈ v.settings.welcomeFiles, v.MayAsk rel (rel ++ name) :=
    fun name listed => .inr ⟨(v.asksDirectory_iff rel).2 asks, name, listed, rfl⟩
  rw [select, (Text.strip?_eq_some_iff _ _ _).2 rfl]
  dsimp only
  unfold selectBelow
  split
  · exact .pure _
  · split
    · exact v.asksOf_selectFurther _ _ self welcome
    · split
      · exact v.asksOf_selectFurther _ _ self welcome
      · exact .pure _

variable {v}

theorem Asks.mayAsk (asks : v.Asks (v.path ++ rel) path) : v.MayAsk rel path := by
  obtain ⟨asked, same, among⟩ := (v.declining path).asksOf_select rel _ asks
  obtain rfl := Event.probeRefused.inj same
  exact among

/-- Nothing is asked about a request elsewhere. -/
theorem Asks.exists_rel {uri : String} (asks : v.Asks uri path) : ∃ rel, uri = v.path ++ rel := by
  cases below : Text.strip? v.path uri with
  | some rel => exact ⟨rel, (Text.strip?_eq_some_iff _ _ _).1 below⟩
  | none =>
    rw [Asks, select_of_elsewhere (v.declining path) uri below] at asks
    cases asks

/-- **What the resources are asked starts with a slash just where the request keeps to
the mount**, if the mount path does not end in a slash. -/
theorem Asks.led_iff {uri : String} (asks : v.Asks uri path)
    (unslashed : ¬ ∃ front, v.path = front ++ "/") (led : ∃ rest, uri = "/" ++ rest) :
    (∃ rest, path = "/" ++ rest) ↔ Slash.Reaches v.path uri := by
  obtain ⟨rel, rfl⟩ := asks.exists_rel
  rw [Slash.reaches_append_iff]
  by_cases bare : rel = ""
  · subst bare
    have root : path = "/" := by
      rcases asks.mayAsk with self | ⟨⟨front, whole⟩, _⟩
      · exact self
      · rw [String.append_empty] at whole
        exact absurd ⟨front, whole⟩ unslashed
    exact iff_of_true ⟨"", root⟩ (.inr fun strays => strays.1 rfl)
  · -- whatever is asked starts with the path below the mount
    obtain ⟨more, rfl⟩ : ∃ more, path = rel ++ more := by
      rcases asks.mayAsk with self | ⟨_, name, _, behind⟩
      · rw [if_neg bare] at self
        exact ⟨"", self.trans String.append_empty.symm⟩
      · exact ⟨name, behind⟩
    constructor
    · intro slashed
      exact .inr fun strays => (strays.append more).2 slashed
    · rintro (root | settled)
      · obtain ⟨rest, split⟩ := led
        rw [root, String.empty_append] at split
        exact ⟨rest ++ more, by rw [split, String.append_assoc]⟩
      · obtain ⟨rest, rfl⟩ : ∃ rest, rel = "/" ++ rest := by
          by_contra unled
          exact settled ⟨bare, unled⟩
        exact ⟨rest ++ more, String.append_assoc ..⟩

end Version

/-! ## Requests within an application -/

namespace Resolution

/-- A handler or a redirect is set. -/
def Answered (result : Resolution H A W) : Prop :=
  result.handler ≠ none ∨ result.redirectPath ≠ none

theorem answered_iff (result : Resolution H A W) :
    result.Answered ↔ ¬ result.outcome.Unanswered := by
  rw [Answered, Outcome.Unanswered, not_and_or]
  rfl

end Resolution

namespace Version

variable {v : Version A W}

theorem answered_within_iff (ordered : v.handlers.WellFormed) (rel : String) :
    (Resolution.within v (v.path ++ rel) : Resolution H A W).Answered ↔ ¬ v.Silent rel := by
  have fresh : ({ application := some v.target, slashCount := v.slashCount
                  applicationPath := v.path } : Resolution H A W).outcome = .unmatched := rfl
  rw [Resolution.answered_iff, Resolution.within, Resolution.outcome_complete fresh,
    precedence_unanswered ((precedence_iff ordered rel _).2 rfl)]

theorem exists_rel_of_answered {uri : String}
    (answered : (Resolution.within v uri : Resolution H A W).Answered) :
    ∃ rel, uri = v.path ++ rel := by
  cases below : Text.strip? v.path uri with
  | some rel => exact ⟨rel, (Text.strip?_eq_some_iff _ _ _).1 below⟩
  | none =>
    rw [Resolution.within, select_of_elsewhere v uri below] at answered
    exact answered.elim (absurd rfl) (absurd rfl)

end Version

namespace Router

variable [DecidableEq H] [DecidableEq A] [DecidableEq W] {r : Router H A W}

/-- **An application keeps within its mount only if it is sealed.** -/
theorem Reachable.within_boundary (reachable : r.Reachable) {target : A} {version : Version A W}
    (found : (r.index.place? target).bind r.version? = some version) :
    (∀ uri, (r.resolveWithin target uri).value.Answered → ∃ rel, uri = version.path ++ rel) ∧
    ((∀ uri, (r.resolveWithin target uri).value.Answered → Slash.Reaches version.path uri) ↔
      version.path = "" ∨ version.Sealed) ∧
    ((¬ ∃ front, version.path = front ++ "/") → ∀ uri path, (∃ rest, uri = "/" ++ rest) →
      version.Asks uri path →
      ((∃ rest, path = "/" ++ rest) ↔ Slash.Reaches version.path uri)) := by
  obtain ⟨place, _, there⟩ := Option.bind_eq_some_iff.1 found
  obtain ⟨ordered, known⟩ := reachable.written there
  have within (uri : String) : (r.resolveWithin target uri).value = .within version uri := by
    rw [value_resolveWithin, found]
  simp only [within]
  refine ⟨fun uri => Version.exists_rel_of_answered, ?_,
    fun unslashed uri path led asks => asks.led_iff unslashed led⟩
  constructor
  · intro keeps
    by_cases root : version.path = ""
    · exact .inl root
    · refine .inr (Version.sealed_of_silent known ordered fun rel strays => ?_)
      by_contra answered
      have reaches := keeps _ ((Version.answered_within_iff ordered rel).2 answered)
      exact (Slash.reaches_append_iff.1 reaches).elim root fun settled => settled strays
  · rintro (root | sealed) uri answered
    · exact .inl root
    · obtain ⟨rel, rfl⟩ := Version.exists_rel_of_answered answered
      rw [Slash.reaches_append_iff]
      refine .inr fun strays => ?_
      exact (Version.answered_within_iff ordered rel).1 answered
        (Version.silent_of_sealed sealed ordered known strays)

/-- Handlers for one directory, one page and one kind of file, that has a dot. -/
def fenced : Router Nat Nat Nat :=
  runAll empty [.deploy "h" 0 { path := "/app", target := 1, handlers :=
    [{ pattern := "/docs/*", target := 7 }, { pattern := "/about", target := 8 },
      { pattern := "*.tar.gz", target := 9 }] }]

/-- Whoever holds the application gets an answer under its mount, and none beside it. -/
theorem within_boundary_fenced :
    (fenced.resolveWithin 1 "/app/docs/x").value.handler = some 7 ∧
      ¬ (fenced.resolveWithin 1 "/apple/docs/x").value.Answered := by
  have reachable : fenced.Reachable := ⟨_, rfl⟩
  have held : ((fenced.index.place? 1).bind fenced.version?).any (fun version =>
      decide (version.path = "/app" ∧ "" ∉ version.handlers.wildcard.names ∧
        (∀ suffix ∈ version.handlers.extension.names, '.' ∈ suffix.toList) ∧
        version.handlers.fallback.isNone = true ∧
        version.settings.directoryRedirect = false)) = true := by decide +kernel
  obtain ⟨version, found, fields⟩ := (Option.any_eq_true _ _).1 held
  obtain ⟨path, no_catchAll, dotted, no_fallback, plain⟩ := of_decide_eq_true fields
  have sealed : version.Sealed :=
    ⟨no_catchAll, dotted, Option.isNone_iff_eq_none.1 no_fallback, by simp [plain]⟩
  refine ⟨by decide +kernel, fun answered => ?_⟩
  have reach := (reachable.within_boundary found).2.1.2 (.inr sealed) _ answered
  rw [path] at reach
  exact absurd reach (by decide +kernel)

/-- A default handler, and resources that are asked about directories. -/
def unfenced : Router Nat Nat Nat :=
  runAll empty [.deploy "h" 0 { path := "/app", target := 1, settings :=
    { resources := some ⟨fun _ => some .missing⟩, directoryRedirect := true }, handlers :=
    [{ pattern := "/", target := 8 }] }]

/-- A request for `/apple` gets the default handler of `/app`, and the resources are asked
about `le`. -/
theorem within_crosses_boundary :
    unfenced.Reachable ∧ (unfenced.resolveWithin 1 "/apple").value.handler = some 8 ∧
      ((unfenced.index.place? 1).bind unfenced.version?).any (fun version =>
        decide (version.path = "/app" ∧ version.Asks "/apple" "le")) = true ∧
      ¬ Slash.Reaches "/app" "/apple" :=
  ⟨⟨_, rfl⟩, by decide +kernel, by decide +kernel, by decide +kernel⟩

end Router

end VirtualHosting
