/-
# Proofs.Pausing — a pause lasts

A version that is paused is still selected, but no request gets past it. Nothing
takes the pause back: handlers and welcome files come and go, the version is
deployed again, other versions and aliases join it, and it stays paused until it is
withdrawn. The reason is that a version is revised and never replaced
(`Proofs.Lifetime`), by the calls about it and nothing else (`Proofs.Provenance`), and
that no revision lifts a pause.

* `Version.paused_of_revisions`: no revision lifts a pause;
* `Router.Sound.resolve_paused`: a request that selects a paused version;
* `Router.Sound.exists_paused`: a version that was paused, after any calls that leave it;
* `Session.pause_sticks`: what readers and requests find of it.
-/
import VirtualHosting.Proofs.Copies
import VirtualHosting.Proofs.Provenance
import VirtualHosting.Proofs.Request

namespace VirtualHosting

set_option autoImplicit false

variable {H A W : Type}

/-! ## Versions -/

namespace Version

variable [DecidableEq W] {v next : Version A W}

theorem target_of_revisions (revisions : Relation.ReflTransGen Revision v next) :
    next.target = v.target := by
  induction revisions with
  | refl => rfl
  | tail _ revision same => exact revision.target_eq.trans same

/-- A paused version stays so, however much it is revised. -/
theorem paused_of_revisions (revisions : Relation.ReflTransGen Revision v next)
    (paused : v.paused = true) : next.paused = true := by
  induction revisions with
  | refl => exact paused
  | tail _ revision still => exact revision.paused still

end Version

/-! ## Requests -/

/-- What a request gets that reaches an application and is let no further. -/
structure Resolution.Stopped (result : Resolution H A W) (serving : H) (target : A) : Prop where
  host : result.host = some serving
  application : result.application = some target
  handler : result.handler = none
  redirectPath : result.redirectPath = none

namespace Router

variable {r : Router H A W} {place : Coordinates} {version : Version A W}

/-- A request that selects a paused version gets as far as its application. -/
theorem Sound.resolve_paused (sound : r.Sound) {asked uri : String} {requested : Option String}
    (selected : r.requestedVersion? asked uri requested = some (place, version))
    (paused : version.paused = true) {owner : Host H A W}
    (known : r.host? place.host = some owner) :
    (r.resolve asked uri requested).value.Stopped owner.target version.target := by
  obtain ⟨serving, application, known', _, alike⟩ := sound.alike_resolve selected
  obtain rfl := Option.some.inj (known.symm.trans known')
  obtain ⟨_, _, stopped⟩ := exists_resolve_eq selected
  rw [paused] at stopped
  refine ⟨alike.host, alike.application, ?_, ?_⟩
  · exact congrArg Resolution.handler stopped
  · exact congrArg Resolution.redirectPath stopped

/-- A request for a host or one of its aliases selects the version that is to serve
it there. -/
theorem Sound.requestedVersion?_of_family (sound : r.Sound) {owner : Host H A W}
    (known : r.host? place.host = some owner) {name : String}
    (family : name ∈ place.host :: owner.aliases) (named : name ≠ "") {uri : String}
    {application : Application A W} {requested : Option String}
    (best : owner.mounts.applications.MostSpecific uri (place.path, application))
    (serves : application.Serves requested place.version version) :
    r.requestedVersion? name uri requested = some (place, version) := by
  obtain ⟨entry, there, leads⟩ :=
    realName?_eq_some_iff.1 ((sound.mem_cons_aliases_iff known).1 family)
  have selected := requestedEntry?_of_find? sound.wellFormed there named
  have behind : r.hostBehind? entry = some owner := by
    rw [hostBehind?_of_find? there, leads, known]
  exact (requestedVersion?_eq_some_iff sound).2
    ⟨(name, entry), owner, application, selected, behind, leads.symm, best, serves⟩

/-! ## The call -/

/-- A call that pauses finds its version and pauses it. -/
theorem exists_of_pause [DecidableEq A] {target : A}
    (happened : (r.pause place target).value.1 = true) :
    ∃ version, r.find place = .ok version ∧ version.target = target ∧
      (r.pause place target).value.2 = r.modifyVersion place (·.pause) := by
  unfold pause at happened ⊢
  cases deployed : r.find place with
  | error refusal =>
    rw [deployed] at happened
    cases happened
  | ok version =>
    rw [deployed] at happened
    by_cases same : version.target = target
    · exact ⟨version, rfl, same, by simp [same]⟩
    · simp [same] at happened

/-- Whatever else is done to a version that was paused, it is one that was paused. -/
theorem Sound.exists_paused [DecidableEq H] [DecidableEq A] [DecidableEq W] (sound : r.Sound)
    {target : A} {later : List (Call H A W)}
    (paused : (r.run (.pause place target)).value.1 = .flag true)
    (spares : (r.after (.pause place target)).Spares (stored place) later) :
    ∃ original version, r.find place = .ok original ∧
      (r.runAll (.pause place target :: later)).version? (stored place) = some version ∧
      version = later.foldl (Version.revisedAt (stored place)) original.pause ∧
      Relation.ReflTransGen Version.Revision original.pause version ∧ version.paused = true ∧
      version.target = target := by
  obtain ⟨original, deployed, rfl, changed⟩ := exists_of_pause (Reply.flag.inj paused)
  have nextSound := (edits_after sound (.pause place original.target)).sound sound
  have there : (r.after (.pause place original.target)).version? (stored place) =
      some original.pause := by
    show (r.pause place original.target).value.2.version? _ = _
    rw [changed, version?_modifyVersion sound.wellFormed (find_eq_ok_iff.1 deployed), if_pos rfl]
  obtain ⟨version, found, revisions⟩ := spares.exists_revisions nextSound there
  have since := Option.some.inj (found.symm.trans (spares.version?_runAll nextSound there))
  have same := Version.target_of_revisions revisions
  exact ⟨original, version, deployed, found, since, revisions,
    Version.paused_of_revisions revisions rfl, same⟩

end Router

/-! ## Runs -/

variable [DecidableEq H] [DecidableEq A] [DecidableEq W]

/-- **A pause lasts.** After a call that paused a version, and any calls of which none
withdraws it, the version is found where it was. It is the one that was paused, as those
calls revised it one after another, and what a reader kept of it is what is found. It is
paused, and whatever request selects it gets the host and the application and neither a
handler nor a redirect. The requests for the host and for all its aliases do select it. -/
theorem Session.pause_sticks {s : Session H A W} (reachable : s.router.Reachable)
    {place : Coordinates} {target : A} {later : List (Call H A W)}
    (paused : (s.call (.pause place target)).value.1 = .flag true)
    (spares : (s.router.after (.pause place target)).Spares (Router.stored place) later) :
    let next := s.callAll (.pause place target :: later)
    ∃ version, next.router.find place = .ok version ∧ version.paused = true ∧
      version.target = target ∧
      (∃ original, s.router.find place = .ok original ∧
        version = later.foldl (Version.revisedAt (Router.stored place)) original.pause ∧
        Relation.ReflTransGen Version.Revision original.pause version) ∧
      (∀ key, s.watch.versions.lookup key = some (.current (Router.stored place)) →
        next.watch.version? next.router key = some (place.version, version)) ∧
      ∃ owner, next.router.host? (Router.stored place).host = some owner ∧
        (∀ asked uri requested selected,
          next.router.requestedVersion? asked uri requested =
            some (Router.stored place, selected) →
          (next.router.resolve asked uri requested).value.Stopped owner.target target) ∧
        ∀ name ∈ (Router.stored place).host :: owner.aliases, name ≠ "" →
          ∀ uri application requested,
            owner.mounts.applications.MostSpecific uri (place.path, application) →
            application.Serves requested place.version version →
            next.router.requestedVersion? name uri requested =
              some (Router.stored place, version) := by
  intro next
  have sound := reachable.sound
  obtain ⟨original, version, deployed, found, since, revisions, sticks, same⟩ :=
    sound.exists_paused paused spares
  have last : next.router = s.router.runAll (.pause place target :: later) := s.router_callAll _
  rw [← last] at found
  have lastSound : next.router.Sound := last ▸ sound.runAll _
  obtain ⟨owner, known, _⟩ := Option.bind_eq_some_iff.1 found
  refine ⟨version, Router.find_eq_ok_iff.2 found, sticks, same,
    ⟨original, deployed, since, revisions⟩, ?_, owner, known, ?_, ?_⟩
  · intro key kept
    -- the pause itself is a call that withdraws nothing
    have whole : s.router.Spares (Router.stored place) (.pause place target :: later) :=
      ⟨nofun, spares⟩
    rw [version?_watch_callAll whole sound (Router.find_eq_ok_iff.1 deployed) kept, found]
    rfl
  · intro asked uri requested selected chosen
    obtain rfl := Option.some.inj
      (found.symm.trans (lastSound.version?_of_requestedVersion? chosen))
    rw [← same]
    exact lastSound.resolve_paused chosen sticks known
  · intro name family named uri application requested best serves
    exact lastSound.requestedVersion?_of_family known family named best serves

namespace Session

/-- A version with a handler, on a host with an alias, and a reader who keeps it. -/
def watched : Session Nat Nat Nat where
  router := Router.runAll .empty
    [.addHost "h" ["w"] 0,
      .deploy "h" 0 { path := "/a", target := 1, handlers := [⟨"/x", 7, {}⟩] }]
  watch := { versions := [("kept", .current ⟨"h", "/a", ""⟩)] }

/-- The version is deployed again, for its target and for another, a second one comes
and goes, and the host gains an alias. -/
def afterPause : List (Call Nat Nat Nat) :=
  [.deploy "h" 0 { path := "/a", target := 1, handlers := [⟨"/y", 8, {}⟩] },
    .deploy "h" 0 { path := "/a", target := 2 },
    .deploy "h" 0 { path := "/a", version := "2", target := 2 },
    .addHandler ⟨"h", "/a", ""⟩ "/z" 9 {}, .undeploy ⟨"h", "/a", "2"⟩, .addAlias "h" "v"]

/-- All the while the version is paused for its reader, and for requests by the new
alias. -/
theorem pause_sticks_watched :
    let next := watched.callAll (.pause ⟨"h", "/a", ""⟩ 1 :: afterPause)
    ∃ version, next.router.find ⟨"h", "/a", ""⟩ = .ok version ∧ version.paused = true ∧
      next.watch.version? next.router "kept" = some ("", version) ∧
      (next.router.resolve "v" "/a/x" none).value.Stopped 0 1 := by
  intro next
  have reachable : watched.router.Reachable := ⟨_, rfl⟩
  have stored : Router.stored ⟨"h", "/a", ""⟩ = ⟨"h", "/a", ""⟩ := by decide +kernel
  have away : Router.stored ⟨"h", "/a", "2"⟩ ≠ Router.stored ⟨"h", "/a", ""⟩ := by decide +kernel
  have spares : (watched.router.after (.pause ⟨"h", "/a", ""⟩ 1)).Spares
      (Router.stored ⟨"h", "/a", ""⟩) afterPause :=
    ⟨nofun, nofun, nofun, nofun, fun here => absurd here away, nofun, trivial⟩
  have done : (watched.call (.pause ⟨"h", "/a", ""⟩ 1)).value.1 = .flag true := by decide +kernel
  obtain ⟨version, found, paused, _, _, kept, owner, known, stopped, _⟩ :=
    pause_sticks reachable done spares
  have chosen : (next.router.requestedVersion? "v" "/a/x" none).map (·.1) =
      some (Router.stored ⟨"h", "/a", ""⟩) := by decide +kernel
  obtain ⟨⟨_, selected⟩, requested, rfl⟩ := Option.map_eq_some_iff.1 chosen
  have target :
      (next.router.host? (Router.stored ⟨"h", "/a", ""⟩).host).map (·.target) = some 0 := by
    decide +kernel
  rw [known] at target
  have serving : owner.target = 0 := Option.some.inj target
  rw [serving] at stopped
  exact ⟨version, found, paused, kept "kept" (by rw [stored]; rfl), stopped _ _ _ _ requested⟩

end Session

end VirtualHosting
