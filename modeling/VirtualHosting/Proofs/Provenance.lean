/-
# Proofs.Provenance — a version is its deployment and the calls since

What is deployed at a place came there by one deployment, as that deployment offered
it. After that the calls about the place change it, each in its own way
(`Version.revised`), and no other call does. So whatever a deployment offers and every
such change keeps, each version of every reachable router has.

* `version?_revises`, `version?_deploy`: what one call does to the versions there are;
* `version?_after`: where a version comes from that is there after a call;
* `Spares.version?_runAll`: what a run makes of a version that it does not withdraw;
* `exists_deployment`: where it comes from after a run;
* `Reachable.forall_version`: an invariant of versions from its two cases.
-/
import VirtualHosting.Proofs.Interchange
import VirtualHosting.Proofs.Lifetime

namespace VirtualHosting

set_option autoImplicit false

variable {H A W : Type}

/-! ## What a call makes of a version -/

/-- The place of the version that a call changes, in stored form. -/
def Call.revises? : Call H A W → Option Coordinates
  | .pause place _ | .addHandler place _ _ _ | .removeHandler place _ | .addWelcomeFile place _
  | .removeWelcomeFile place _ | .clearWelcomeFiles place => some (Router.stored place)
  | _ => none

namespace Version

variable [DecidableEq A]

/-- The version after a call about it. -/
def revised (v : Version A W) : Call H A W → Version A W
  | .pause _ target => if v.target = target then v.pause else v
  | .addHandler _ pattern target flags =>
    match Pattern.parse pattern with
    | .ok p => v.withHandlers (v.handlers.put p ⟨target, flags⟩)
    | .error _ => v
  | .removeHandler _ pattern =>
    match Pattern.parse pattern with
    | .ok p => v.withHandlers ((v.handlers.remove? p).getD v.handlers)
    | .error _ => v
  | .addWelcomeFile _ name =>
    if Router.isWelcomeName name = true ∧ name ∉ v.settings.welcomeFiles then v.addWelcome name
    else v
  | .removeWelcomeFile _ name => v.removeWelcome name
  | .clearWelcomeFiles _ => v.withWelcomeFiles []
  | _ => v

/-- The version at a place after a call. -/
def revisedAt (place : Coordinates) (v : Version A W) (call : Call H A W) : Version A W :=
  if call.revises? = some place then v.revised call else v

/-- What every call keeps, any calls keep. -/
theorem foldl_revisedAt {I : Version A W → Prop}
    (revised : ∀ (v : Version A W) (call : Call H A W), I v → I (v.revised call))
    (place : Coordinates) (calls : List (Call H A W)) {v : Version A W} (start : I v) :
    I (calls.foldl (revisedAt place) v) := by
  induction calls generalizing v with
  | nil => exact start
  | cons call rest kept =>
    apply kept
    unfold revisedAt
    split
    · exact revised v call start
    · exact start

end Version

theorem Placement.offered_eq_some_iff [DecidableEq W] {p : Placement H A W} {v : Version A W} :
    p.offered = some v ↔
      ∃ handlers, p.handlers = .ok handlers ∧ p.deployment.publication handlers = v := by
  rw [offered, Option.map_eq_some_iff]
  refine exists_congr fun handlers => and_congr_left' ?_
  cases p.handlers <;> simp [Except.toOption]

namespace Router

variable {r next : Router H A W} {place other : Coordinates} {version : Version A W}

/-! ## Calls about one version -/

/-- One version is revised by `f`, or it is missing, or `f` makes no difference to it. -/
inductive RevisedBy (r : Router H A W) (place : Coordinates) (f : Version A W → Version A W) :
    Router H A W → Prop where
  | missing {refusal : Refusal} (missed : r.find place = .error refusal) : RevisedBy r place f r
  | kept {v : Version A W} (found : r.find place = .ok v) (same : f v = v) : RevisedBy r place f r
  | changed {v : Version A W} {g : Version A W → Version A W} (found : r.find place = .ok v)
      (same : g v = f v) : RevisedBy r place f (r.modifyVersion place g)

/-- A revision at one place is all that changes of what is deployed. -/
theorem RevisedBy.version? {f : Version A W → Version A W} (revised : r.RevisedBy other f next)
    (sound : r.Sound) (place : Coordinates) :
    next.version? place =
      (r.version? place).map fun v => if some (stored other) = some place then f v else v := by
  by_cases here : stored other = place
  · subst here
    simp only [if_true]
    cases revised with
    | missing missed =>
      cases there : r.version? (stored other) with
      | none => rfl
      | some v => cases missed.symm.trans (find_eq_ok_iff.2 there)
    | kept found same =>
      rw [find_eq_ok_iff.1 found, Option.map_some, same]
    | changed found same =>
      have there := find_eq_ok_iff.1 found
      rw [version?_modifyVersion sound.wellFormed there, if_pos rfl, there, Option.map_some, same]
  · have elsewhere : some (stored other) ≠ some place := fun same => here (Option.some.inj same)
    simp only [elsewhere, if_false, Option.map_id']
    cases revised with
    | missing | kept => rfl
    | changed found _ =>
      rw [version?_modifyVersion sound.wellFormed (find_eq_ok_iff.1 found), if_neg (Ne.symm here)]

variable [DecidableEq A]

theorem revisedBy_pause (r : Router H A W) (place : Coordinates) (target : A) :
    r.RevisedBy place (·.revised (.pause place target : Call H A W))
      (r.pause place target).value.2 := by
  unfold pause
  split
  · rename_i missed
    exact .missing missed
  · rename_i v found
    by_cases own : v.target = target
    · rw [if_pos own]
      exact .changed found (if_pos own).symm
    · rw [if_neg own]
      exact .kept found (if_neg own)

theorem revisedBy_addHandler [DecidableEq W] (r : Router H A W) (place : Coordinates)
    (pattern : String) (target : W) (flags : HandlerFlags) :
    r.RevisedBy place (·.revised (.addHandler place pattern target flags : Call H A W))
      (r.addHandler place pattern target flags).value.2 := by
  rw [value_addHandler]
  cases found : r.find place with
  | error refusal =>
    cases Pattern.parse pattern <;> exact .missing found
  | ok v =>
    cases read : Pattern.parse pattern with
    | error fault =>
      refine .kept found ?_
      simp only [Version.revised, read]
    | ok p =>
      have revision : v.revised (.addHandler place pattern target flags : Call H A W) =
          v.withHandlers (v.handlers.put p ⟨target, flags⟩) := by
        simp only [Version.revised, read]
      cases held : v.handlers.find? p with
      | none =>
        rw [HandlerSet.put_of_free held] at revision
        simp only [HandlerSet.add_of_free held]
        exact .changed found revision.symm
      | some existing =>
        have kept : v.revised (.addHandler place pattern target flags : Call H A W) = v := by
          rw [revision, HandlerSet.put_of_held held]
          rfl
        have taken := HandlerSet.add_of_held held target flags
        by_cases own : existing.target = target
        · rw [if_pos own] at taken
          simp only [taken]
          exact RevisedBy.kept found kept
        · rw [if_neg own] at taken
          simp only [taken]
          exact RevisedBy.kept found kept

theorem revisedBy_removeHandler (r : Router H A W) (place : Coordinates) (pattern : String) :
    r.RevisedBy place (·.revised (.removeHandler place pattern : Call H A W))
      (r.removeHandler place pattern).value.2 := by
  rw [value_removeHandler]
  cases found : r.find place with
  | error refusal =>
    cases Pattern.parse pattern <;> exact .missing found
  | ok v =>
    cases read : Pattern.parse pattern with
    | error fault =>
      refine .kept found ?_
      simp only [Version.revised, read]
    | ok p =>
      have revision : v.revised (.removeHandler place pattern : Call H A W) =
          v.withHandlers ((v.handlers.remove? p).getD v.handlers) := by
        simp only [Version.revised, read]
      cases removed : v.handlers.remove? p with
      | none =>
        rw [removed] at revision
        simp only [removed]
        exact .kept found revision
      | some handlers =>
        rw [removed] at revision
        simp only [removed]
        exact .changed found revision.symm

theorem revisedBy_addWelcomeFile (r : Router H A W) (place : Coordinates) (name : String) :
    r.RevisedBy place (·.revised (.addWelcomeFile place name : Call H A W))
      (r.addWelcomeFile place name).2 := by
  unfold addWelcomeFile
  cases found : r.find place with
  | error refusal =>
    dsimp only
    split <;> exact .missing found
  | ok v =>
    dsimp only
    split
    · rename_i unfit
      refine .kept found (if_neg ?_)
      rintro ⟨fit, _⟩
      simp [fit] at unfit
    · rename_i fit
      split
      · rename_i listed
        exact .kept found (if_neg fun both => both.2 listed)
      · rename_i fresh
        exact .changed found (if_pos ⟨by simpa using fit, fresh⟩).symm

theorem revisedBy_removeWelcomeFile (r : Router H A W) (place : Coordinates) (name : String) :
    r.RevisedBy place (·.revised (.removeWelcomeFile place name : Call H A W))
      (r.removeWelcomeFile place name).2 := by
  unfold removeWelcomeFile
  split
  · rename_i missed
    exact .missing missed
  · rename_i v found
    split
    · exact .changed found rfl
    · rename_i unlisted
      refine .kept found ?_
      show v.withWelcomeFiles (v.settings.welcomeFiles.erase name) = v
      rw [List.erase_of_not_mem unlisted]
      rfl

theorem revisedBy_clearWelcomeFiles (r : Router H A W) (place : Coordinates) :
    r.RevisedBy place (·.revised (.clearWelcomeFiles place : Call H A W))
      (r.clearWelcomeFiles place).2 := by
  unfold clearWelcomeFiles
  split
  · rename_i missed
    exact .missing missed
  · rename_i v found
    exact .changed found rfl

variable [DecidableEq W] [DecidableEq H]

theorem exists_revisedBy (r : Router H A W) {call : Call H A W}
    (about : call.revises? = some place) :
    ∃ spot, stored spot = place ∧ r.RevisedBy spot (·.revised call) (r.after call) := by
  cases call with
  | pause spot target => exact ⟨spot, Option.some.inj about, revisedBy_pause r spot target⟩
  | addHandler spot pattern target flags =>
    exact ⟨spot, Option.some.inj about, revisedBy_addHandler r spot pattern target flags⟩
  | removeHandler spot pattern =>
    exact ⟨spot, Option.some.inj about, revisedBy_removeHandler r spot pattern⟩
  | addWelcomeFile spot name =>
    exact ⟨spot, Option.some.inj about, revisedBy_addWelcomeFile r spot name⟩
  | removeWelcomeFile spot name =>
    exact ⟨spot, Option.some.inj about, revisedBy_removeWelcomeFile r spot name⟩
  | clearWelcomeFiles spot =>
    exact ⟨spot, Option.some.inj about, revisedBy_clearWelcomeFiles r spot⟩
  | setDefaultHost | addHost | removeHost | addAlias | removeAlias | deploy | undeploy =>
    cases about

/-- **A call about a version revises it**, and no other version. -/
theorem version?_revises (sound : r.Sound) {call : Call H A W} (about : call.revises? = some other)
    (place : Coordinates) :
    (r.after call).version? place = (r.version? place).map (·.revisedAt place call) := by
  obtain ⟨spot, rfl, revised⟩ := exists_revisedBy r about
  simp only [Version.revisedAt, about]
  exact revised.version? sound place

/-! ## Calls about anything else -/

omit [DecidableEq A] [DecidableEq W] [DecidableEq H]

theorem version?_removeHost (sound : r.Sound) {name : String}
    (there : (r.removeHost name).value.2.version? place = some version) :
    r.version? place = some version := by
  rw [value_removeHost] at there
  split at there
  · exact there
  · dsimp only at there
    have left := host?_leave sound.wellFormed.ordered (normalizeHostName name)
      (r.index.forgetHost (normalizeHostName name)) place.host
    rw [version?, left] at there
    split at there
    · cases there
    · exact there

theorem version?_addAlias (sound : r.Sound) (host name : String) (place : Coordinates) :
    (r.addAlias host name).value.2.version? place = r.version? place := by
  rw [value_addAlias]
  split
  · rfl
  · exact version?_insertAlias sound.wellFormed.ordered _ _ place

theorem version?_removeAlias (sound : r.Sound) (name : String) (place : Coordinates) :
    (r.removeAlias name).value.2.version? place = r.version? place := by
  have ordered := sound.wellFormed.ordered
  rw [value_removeAlias]
  split
  · rename_i host known
    split
    · rfl
    · rename_i entries erased
      have nextOrdered : ({ r with entries } : Router H A W).entries.Ordered :=
        ordered.erase? erased
      have unlisted :=
        version?_modifyAliases nextOrdered host (List.erase · (normalizeHostName name)) place
      exact unlisted.trans (version?_dropAlias ordered known erased place)
  · rfl

variable [DecidableEq A]

theorem version?_undeploy (sound : r.Sound) {other : Coordinates}
    (there : (r.undeploy other).value.2.version? place = some version) :
    r.version? place = some version := by
  rw [value_undeploy] at there
  split at there
  · exact there
  · rename_i host known
    split at there
    · exact there
    · rename_i application mounted
      split at there
      · rename_i removed remaining deployed erased
        have hostOrdered := sound.wellFormed.of_host? known
        have changed := version?_modifyMounts_update (f := fun mounts =>
          if remaining.isEmpty then (mounts.remove? other.path).getD mounts
          else mounts.modifyVersions other.path fun _ => remaining)
          sound.wellFormed.ordered known (hostOrdered.version?_withdraw mounted erased) place
        have there := changed.symm.trans there
        split at there
        · cases there
        · exact there
      · exact there

/-- Deploying on a host puts the version where nothing was, and changes no other. -/
theorem version?_deployOn (sound : r.Sound) {name : String} {owner : Host H A W}
    (known : r.host? name = some owner) (deployment : Deployment A W) (handlers : HandlerSet W)
    (there : (r.deployOn name owner.mounts deployment handlers).value.2.version? place =
      some version) :
    r.version? place = some version ∨ r.version? place = none ∧
      place = ⟨name, deployment.path, deployment.version⟩ ∧
      deployment.publication handlers = version := by
  have hostOrdered := sound.wellFormed.of_host? known
  cases taken : owner.mounts.version? deployment.path deployment.version with
  | some existing =>
    rw [value_deployOn_taken hostOrdered taken] at there
    exact .inl there
  | none =>
    obtain ⟨published, done, changed⟩ := exists_deployOn_free hostOrdered taken r name handlers
    rw [done] at there
    have grown := version?_modifyMounts_update (f := fun _ => published)
      sound.wellFormed.ordered known changed place
    have there := grown.symm.trans there
    split at there
    · rename_i here
      have free : r.version? place = none := by
        rw [here, version?, known]
        exact taken
      exact .inr ⟨free, here, Option.some.inj there⟩
    · exact .inl there

variable [DecidableEq W] [DecidableEq H]

/-- What is there after a deployment was there before, or it is what was offered. -/
theorem version?_deploy (sound : r.Sound) (p : Placement H A W)
    (there : (r.after p.toCall).version? place = some version) :
    r.version? place = some version ∨
      r.version? place = none ∧ p.place = place ∧ p.offered = some version := by
  have ordered := sound.wellFormed.ordered
  have offered {handlers : HandlerSet W} (gathered : p.handlers = .ok handlers) :
      p.offered = some (p.deployment.publication handlers) :=
    Placement.offered_eq_some_iff.2 ⟨handlers, gathered, rfl⟩
  rw [after, value_run_placement] at there
  have there : (r.deploy p.host p.hostTarget p.deployment).value.2.version? place =
    some version := there
  rw [value_deploy] at there
  split at there
  · exact .inl there
  · rename_i handlers gathered
    split at there
    · exact .inl there
    · rename_i owner found
      have known := host?_eq_some_iff.2 found
      refine (version?_deployOn sound known p.deployment handlers there).imp_right ?_
      rintro ⟨free, here, rfl⟩
      exact ⟨free, here.symm, offered gathered⟩
    · rename_i missing
      -- the host is new, and so there was nothing on it
      obtain ⟨entries, inserted, answer⟩ := addHost_stored ordered missing p.hostTarget
      have entered : Edit r { r with entries } := .enterHost inserted
      have bare := version?_insert ordered inserted
        (fun host same => by rw [← HostEntry.real.inj same]; rfl) place
      dsimp only at there
      rw [answer] at there
      have arrived := version?_deployOn (entered.sound sound) (host?_of_insert? ordered inserted)
        p.deployment handlers there
      rw [bare] at arrived
      refine arrived.imp_right ?_
      rintro ⟨free, here, rfl⟩
      exact ⟨free, here.symm, offered gathered⟩

/-! ## One call, and a run -/

omit [DecidableEq A] [DecidableEq W] [DecidableEq H] in
theorem version?_empty (place : Coordinates) : (empty : Router H A W).version? place = none := by
  rw [version?, host?_of_find?_eq_none (Table.find?_empty place.host), Option.bind_none]

/-- **What is deployed after a call** is what the call made of what was deployed, or
nothing was and the call has deployed it. -/
theorem version?_after (sound : r.Sound) (call : Call H A W)
    (there : (r.after call).version? place = some version) :
    (∃ earlier, r.version? place = some earlier ∧ version = earlier.revisedAt place call) ∨
      r.version? place = none ∧
        ∃ p : Placement H A W, call = p.toCall ∧ p.place = place ∧ p.offered = some version := by
  have stayed (elsewhere : call.revises? = none) (there : r.version? place = some version) :
      ∃ earlier, r.version? place = some earlier ∧ version = earlier.revisedAt place call := by
    refine ⟨version, there, ?_⟩
    rw [Version.revisedAt, elsewhere, if_neg nofun]
  cases call with
  | setDefaultHost => exact .inl (stayed rfl there)
  | addHost name aliases target =>
    exact .inl (stayed rfl ((renames_addHost sound name aliases target).version? place ▸ there))
  | removeHost name => exact .inl (stayed rfl (version?_removeHost sound there))
  | addAlias host name => exact .inl (stayed rfl (version?_addAlias sound host name place ▸ there))
  | removeAlias name => exact .inl (stayed rfl (version?_removeAlias sound name place ▸ there))
  | undeploy other => exact .inl (stayed rfl (version?_undeploy sound there))
  | deploy host hostTarget deployment =>
    rcases version?_deploy sound ⟨host, hostTarget, deployment⟩ there with
      old | ⟨free, here, offered⟩
    · exact .inl (stayed rfl old)
    · exact .inr ⟨free, ⟨host, hostTarget, deployment⟩, rfl, here, offered⟩
  | pause | addHandler | removeHandler | addWelcomeFile | removeWelcomeFile | clearWelcomeFiles =>
    rw [version?_revises sound rfl, Option.map_eq_some_iff] at there
    obtain ⟨earlier, before, rfl⟩ := there
    exact .inl ⟨earlier, before, rfl⟩

/-- **A run that withdraws nothing at a place** makes of the version there what its calls
make of it, one after another. -/
theorem Spares.version?_runAll {calls : List (Call H A W)} (spares : Spares place r calls)
    (sound : r.Sound) (there : r.version? place = some version) :
    (r.runAll calls).version? place = some (calls.foldl (Version.revisedAt place) version) := by
  induction calls generalizing r version with
  | nil => exact there
  | cons call rest follows =>
    obtain ⟨spared, spares⟩ := spares
    obtain ⟨next, after, _⟩ := exists_revision_after sound call there spared
    have revised : next = version.revisedAt place call := by
      rcases version?_after sound call after with ⟨earlier, was, rfl⟩ | ⟨free, _⟩
      · obtain rfl := Option.some.inj (there.symm.trans was)
        rfl
      · cases free.symm.trans there
    rw [revised] at after
    exact follows spares ((edits_after sound call).sound sound) after

/-- **Every version comes from a deployment of the run**, and is what the calls after it
have made of what was offered. -/
theorem exists_deployment (calls : List (Call H A W))
    (there : (runAll empty calls).version? place = some version) :
    ∃ (before after : List (Call H A W)) (p : Placement H A W) (offered : Version A W),
      calls = before ++ p.toCall :: after ∧ p.place = place ∧ p.offered = some offered ∧
      version = after.foldl (Version.revisedAt place) offered := by
  induction calls using List.reverseRecOn generalizing version with
  | nil => cases (version?_empty place).symm.trans there
  | append_singleton calls call earlier =>
    rw [runAll_append] at there
    rcases version?_after (sound_empty.runAll calls) call there with
      ⟨previous, was, rfl⟩ | ⟨_, p, rfl, here, offered⟩
    · obtain ⟨before, after, p, original, rfl, here, offered, rfl⟩ := earlier was
      refine ⟨before, after ++ [call], p, original, ?_, here, offered, ?_⟩
      · rw [List.append_assoc, List.cons_append]
      · rw [List.foldl_append]
        rfl
    · exact ⟨calls, [], p, version, rfl, here, offered, rfl⟩

/-- **What every deployment offers and every call keeps, all versions have.** -/
theorem Reachable.forall_version {I : Version A W → Prop} (reachable : r.Reachable)
    (offered : ∀ (p : Placement H A W) (v : Version A W), p.offered = some v → I v)
    (revised : ∀ (v : Version A W) (call : Call H A W), I v → I (v.revised call))
    (there : r.version? place = some version) : I version := by
  obtain ⟨calls, rfl⟩ := reachable
  obtain ⟨_, after, p, original, _, _, given, rfl⟩ := exists_deployment calls there
  exact Version.foldl_revisedAt revised place after (offered p original given)

end Router

end VirtualHosting
