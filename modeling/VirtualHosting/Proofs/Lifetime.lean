/-
# Proofs.Lifetime — a version from its deployment to its withdrawal

A version is deployed once. From then on it is revised, by handlers, welcome files
and its pause, until a call withdraws it or the host it is on. No other call touches
it: deploying over it is no change, and names come and go without it. So as long as
a run withdraws nothing at a place, what is deployed there is the same version,
however much it was revised, and a reader who kept it sees it.

* `Edit.exists_revision`: what an edit does to a version that stays;
* `exists_revision_after`: what a call does, if it does not withdraw the version;
* `Spares.exists_revisions`: what a run does.
-/
import VirtualHosting.Proofs.Additions
import VirtualHosting.Proofs.Refinement
import VirtualHosting.Session

namespace VirtualHosting

set_option autoImplicit false

variable {H A W : Type}

/-! ## Calls that withdraw -/

/-- The calls that withdraw what is deployed at a place, given in stored form. -/
def Call.Withdraws (place : Coordinates) : Call H A W → Prop
  | .undeploy other => Router.stored other = place
  | .removeHost name => normalizeHostName name = place.host
  | _ => False

namespace Ledger

variable {l : Ledger H A} {place : Coordinates} {target : A}

/-- Removing a host withdraws what is deployed on it, and nothing else. -/
theorem deployed_removeHost_or (there : l.deployed place = some target) (name : String) :
    (l.removeHost name).2.deployed place = some target ∨
      name = place.host ∧ (l.removeHost name).1 = true := by
  unfold removeHost
  split
  · by_cases here : place.host = name
    · exact .inr ⟨here.symm, rfl⟩
    · exact .inl ((if_neg here).trans there)
  · exact .inl there

/-- Withdrawing a version withdraws no other. -/
theorem deployed_undeploy_or (there : l.deployed place = some target) (other : Coordinates) :
    (l.undeploy other).2.deployed place = some target ∨
      other = place ∧ (l.undeploy other).1 = true := by
  unfold undeploy
  split
  · exact .inl there
  · by_cases here : place = other
    · exact .inr ⟨here.symm, rfl⟩
    · exact .inl ((Function.update_of_ne here _ _).trans there)

theorem deployed_publish_of_deployed [DecidableEq A] (there : l.deployed place = some target)
    (other : Coordinates) (newcomer : A) :
    (l.publish other newcomer).2.deployed place = some target := by
  unfold publish
  cases taken : l.deployed other with
  | some known => exact there
  | none =>
    have away : place ≠ other := by
      rintro rfl
      cases there.symm.trans taken
    exact (Function.update_of_ne away _ _).trans there

/-- Deploying anything anywhere leaves a target where it is. -/
theorem deployed_deploy_of_deployed [DecidableEq A] (there : l.deployed place = some target)
    (host : String) (hostTarget : H) (deployment : Deployment A W) :
    (l.deploy host hostTarget deployment).2.deployed place = some target := by
  rcases l.deploy_cases host hostTarget deployment with ⟨refusal, refused⟩ | ⟨known, same, done⟩
  · rw [refused]
    exact there
  · rw [done]
    rw [← same] at there
    exact deployed_publish_of_deployed there _ _

/-- A target stays where it is deployed until it is withdrawn. -/
theorem deployed_file [DecidableEq H] [DecidableEq A] (there : l.deployed place = some target)
    (filing : Filing H A W)
    (spared : filing.toCall.Withdraws place → (l.file filing).1 ≠ .flag true) :
    (l.file filing).2.deployed place = some target := by
  cases filing with
  | addHost name aliases hostTarget =>
    exact (congrFun (l.deployed_addHost _ _ hostTarget) place).trans there
  | removeHost name =>
    rcases deployed_removeHost_or there (normalizeHostName name) with stays | ⟨here, done⟩
    · exact stays
    · exact absurd (congrArg Reply.flag done) (spared here)
  | addAlias host name => exact (congrFun (l.deployed_addAlias _ _) place).trans there
  | removeAlias name => exact (congrFun (l.deployed_removeAlias _) place).trans there
  | deploy host hostTarget deployment => exact deployed_deploy_of_deployed there _ _ _
  | undeploy other =>
    rcases deployed_undeploy_or there (Router.stored other) with stays | ⟨here, done⟩
    · exact stays
    · exact absurd (congrArg Reply.flag done) (spared here)

end Ledger

namespace Router

variable {r next : Router H A W} {place : Coordinates} {version : Version A W}

/-! ## One edit -/

/-- An alias that leaves takes no version along. -/
theorem version?_dropAlias (ordered : r.entries.Ordered) {name host : String}
    (known : r.entries.find? name = some (.aliasOf host)) {entries : Table (HostEntry H A W)}
    (erased : r.entries.erase? name = some entries) (place : Coordinates) :
    ({ r with entries } : Router H A W).version? place = r.version? place := by
  rw [version?, version?, host?_dropAlias ordered known erased]

variable [DecidableEq A] [DecidableEq W]

/-- **An edit revises a version at most**, unless the version is gone afterwards. -/
theorem Edit.exists_revision (edit : Edit r next) (sound : r.Sound)
    (there : r.version? place = some version) (stays : next.version? place ≠ none) :
    ∃ version', next.version? place = some version' ∧
      Relation.ReflGen Version.Revision version version' := by
  have ordered := sound.wellFormed.ordered
  have kept (same : next.version? place = r.version? place) :
      ∃ version', next.version? place = some version' ∧
        Relation.ReflGen Version.Revision version version' :=
    ⟨version, same.trans there, .refl⟩
  cases edit with
  | setDefault => exact kept rfl
  | enterHost inserted =>
    apply kept
    refine version?_insert ordered inserted (fun host same => ?_) place
    rw [← HostEntry.real.inj same]
    rfl
  | @enterAlias name host owner entries owned inserted =>
    have nextOrdered : ({ r with entries } : Router H A W).entries.Ordered :=
      ordered.insert? inserted
    have listed := version?_modifyAliases nextOrdered host (· ++ [normalizeHostName name]) place
    exact kept (listed.trans (version?_insert ordered inserted nofun place))
  | @dropHost name host known =>
    have left := host?_leave ordered name (r.index.forgetHost name) place.host
    by_cases here : place.host = name
    · rw [if_pos here] at left
      exact absurd (by rw [version?, left, Option.bind_none]) stays
    · rw [if_neg here] at left
      apply kept
      rw [version?, left, version?]
  | @dropAlias name host entries known erased =>
    have nextOrdered : ({ r with entries } : Router H A W).entries.Ordered :=
      ordered.erase? erased
    have unlisted := version?_modifyAliases nextOrdered host (List.erase · name) place
    exact kept (unlisted.trans (version?_dropAlias ordered known erased place))
  | @deploy name host deployment handlers published known _ done =>
    obtain ⟨free, changed⟩ := (sound.wellFormed.of_host? known).of_publish_added done
    have grown := version?_modifyMounts_update (f := fun _ => published) ordered known changed place
    have away : place ≠ ⟨name, deployment.path, deployment.version⟩ := by
      rintro rfl
      rw [version?, known] at there
      cases there.symm.trans free
    exact kept (grown.trans (if_neg away))
  | @undeploy other host application removed remaining known mounted deployed erased =>
    have hostOrdered := sound.wellFormed.of_host? known
    have changed := version?_modifyMounts_update (f := fun mounts =>
      if remaining.isEmpty then (mounts.remove? other.path).getD mounts
      else mounts.modifyVersions other.path fun _ => remaining)
      ordered known (hostOrdered.version?_withdraw mounted erased) place
    by_cases here : place = other
    · rw [if_pos here] at changed
      exact absurd changed stays
    · rw [if_neg here] at changed
      exact kept changed
  | @revise other known f deployed revision =>
    have deployed := find_eq_ok_iff.1 deployed
    have changed := version?_modifyVersion sound.wellFormed deployed f place
    by_cases here : place = stored other
    · subst here
      obtain rfl := Option.some.inj (deployed.symm.trans there)
      exact ⟨f known, changed.trans (if_pos rfl), .single revision⟩
    · exact kept (changed.trans (if_neg here))

theorem MayEdit.exists_revision (may : MayEdit r next) (sound : r.Sound)
    (there : r.version? place = some version) (stays : next.version? place ≠ none) :
    ∃ version', next.version? place = some version' ∧
      Relation.ReflGen Version.Revision version version' := by
  cases may with
  | refl => exact ⟨version, there, .refl⟩
  | single edit => exact edit.exists_revision sound there stays

omit [DecidableEq A] in
/-- A revision withdraws nothing. -/
theorem MayRevise.version?_ne_none (may : MayRevise r next) (sound : r.Sound)
    (there : r.version? place = some version) : next.version? place ≠ none := by
  cases may with
  | refl =>
    rw [there]
    exact Option.some_ne_none version
  | revise deployed revision =>
    rw [version?_modifyVersion sound.wellFormed (find_eq_ok_iff.1 deployed)]
    split
    · exact Option.some_ne_none _
    · rw [there]
      exact Option.some_ne_none version

/-! ## One call -/

variable [DecidableEq H]

theorem version?_ne_none_of_spared (sound : r.Sound) (filing : Filing H A W)
    (there : r.version? place = some version)
    (spared : filing.toCall.Withdraws place →
      (r.run filing.toCall).value.1 ≠ .flag true) :
    (r.after filing.toCall).version? place ≠ none := by
  have filed := file_run sound filing
  have answer : (r.run filing.toCall).value.1 = (r.ledger.file filing).1 := congrArg Prod.fst filed
  have behind : (r.after filing.toCall).ledger = (r.ledger.file filing).2 := congrArg Prod.snd filed
  have deployed : r.ledger.deployed place = some version.target := by
    rw [deployed_ledger, ← version?, there]
    rfl
  have stays := Ledger.deployed_file deployed filing fun withdraws => by
    rw [← answer]
    exact spared withdraws
  intro gone
  have missing : (r.after filing.toCall).ledger.deployed place = none := by
    rw [deployed_ledger, ← version?, gone]
    rfl
  rw [← behind] at stays
  cases missing.symm.trans stays

/-- **A call that does not withdraw a version revises it at most.** -/
theorem exists_revision_after (sound : r.Sound) (call : Call H A W)
    (there : r.version? place = some version)
    (spared : call.Withdraws place → (r.run call).value.1 ≠ .flag true) :
    ∃ version', (r.after call).version? place = some version' ∧
      Relation.ReflGen Version.Revision version version' := by
  have revised {next : Router H A W} (may : MayRevise r next) :=
    may.mayEdit.exists_revision sound there (may.version?_ne_none sound there)
  have filed (filing : Filing H A W) (same : filing.toCall = call)
      (may : MayEdit r (r.after filing.toCall)) := by
    rw [← same] at spared
    exact may.exists_revision sound there (version?_ne_none_of_spared sound filing there spared)
  cases call with
  | setDefaultHost name => exact ⟨version, there, .refl⟩
  | addHost name aliases target =>
    have renames := renames_addHost sound name aliases target
    exact ⟨version, (renames.version? place).trans there, .refl⟩
  | removeHost name => exact filed (.removeHost name) rfl (mayEdit_removeHost r name)
  | addAlias host name => exact filed (.addAlias host name) rfl (mayEdit_addAlias sound host name)
  | removeAlias name => exact filed (.removeAlias name) rfl (mayEdit_removeAlias r name)
  | deploy host hostTarget deployment =>
    have stays := version?_ne_none_of_spared sound (.deploy host hostTarget deployment) there spared
    obtain ⟨grown, last, rfl | ⟨entries, inserted, rfl⟩⟩ :=
      exists_mayEdit_deploy sound host hostTarget deployment
    · exact last.exists_revision sound there stays
    · -- the host is new, so the version is on another one
      have entered : Edit r { r with entries } := .enterHost inserted
      have bare := version?_insert sound.wellFormed.ordered inserted
        (fun host same => by rw [← HostEntry.real.inj same]; rfl) place
      exact last.exists_revision (entered.sound sound) (bare.trans there) stays
  | undeploy other => exact filed (.undeploy other) rfl (mayEdit_undeploy r other)
  | pause other target => exact revised (mayRevise_pause r other target)
  | addHandler other pattern target flags =>
    exact revised (mayRevise_addHandler r other pattern target flags)
  | removeHandler other pattern => exact revised (mayRevise_removeHandler r other pattern)
  | addWelcomeFile other name => exact revised (mayRevise_addWelcomeFile r other name)
  | removeWelcomeFile other name => exact revised (mayRevise_removeWelcomeFile r other name)
  | clearWelcomeFiles other => exact revised (mayRevise_clearWelcomeFiles r other)

/-! ## Runs -/

/-- No call of a run withdraws what is deployed at a place. -/
def Spares (place : Coordinates) : Router H A W → List (Call H A W) → Prop
  | _, [] => True
  | r, call :: rest =>
    (call.Withdraws place → (r.run call).value.1 ≠ .flag true) ∧ Spares place (r.after call) rest

/-- **A run that withdraws nothing at a place leaves the version that is there**,
revised any number of times. -/
theorem Spares.exists_revisions {calls : List (Call H A W)} (spares : Spares place r calls)
    (sound : r.Sound) (there : r.version? place = some version) :
    ∃ version', (r.runAll calls).version? place = some version' ∧
      Relation.ReflTransGen Version.Revision version version' := by
  induction calls generalizing r version with
  | nil => exact ⟨version, there, .refl⟩
  | cons call rest kept =>
    obtain ⟨spared, spares⟩ := spares
    obtain ⟨middle, there', first⟩ := exists_revision_after sound call there spared
    obtain ⟨last, there'', others⟩ := kept spares ((edits_after sound call).sound sound) there'
    exact ⟨last, there'', first.to_reflTransGen.trans others⟩

end Router

/-! ## Readers -/

namespace Session

variable [DecidableEq H] [DecidableEq A] [DecidableEq W] {s : Session H A W} {place : Coordinates}
  {version : Version A W} {key : String}

/-- The session after a list of calls. -/
def callAll (s : Session H A W) (calls : List (Call H A W)) : Session H A W :=
  calls.foldl (fun s call => (s.call call).value.2) s

theorem router_callAll (s : Session H A W) (calls : List (Call H A W)) :
    (s.callAll calls).router = s.router.runAll calls := by
  induction calls generalizing s with
  | nil => rfl
  | cons call rest same => exact same _

/-- Over a call that leaves the version there, a reader keeps what is deployed. -/
theorem lookup_versions_call (call : Call H A W)
    (stays : (s.router.after call).version? place ≠ none)
    (kept : s.watch.versions.lookup key = some (.current place)) :
    (s.call call).value.2.watch.versions.lookup key = some (.current place) := by
  have followed : Watch.advanceVersion s.router (s.router.after call) (.current place) =
      .current place := if_pos (Option.isSome_iff_ne_none.2 stays)
  show (s.watch.versions.map fun entry =>
    (entry.1, Watch.advanceVersion s.router (s.router.after call) entry.2)).lookup key = _
  revert kept
  induction s.watch.versions with
  | nil => exact nofun
  | cons first rest found =>
    obtain ⟨key', kept'⟩ := first
    rw [List.map_cons, List.lookup_cons, List.lookup_cons]
    cases key == key' with
    | true =>
      rintro ⟨⟩
      exact congrArg some followed
    | false => exact found

/-- **Who keeps a version keeps the one that is there**, as long as nothing is
withdrawn at its place. -/
theorem lookup_versions_callAll {calls : List (Call H A W)}
    (spares : s.router.Spares place calls) (sound : s.router.Sound)
    (there : s.router.version? place = some version)
    (kept : s.watch.versions.lookup key = some (.current place)) :
    (s.callAll calls).watch.versions.lookup key = some (.current place) := by
  induction calls generalizing s version with
  | nil => exact kept
  | cons call rest follows =>
    obtain ⟨spared, spares⟩ := spares
    obtain ⟨next, there', _⟩ := Router.exists_revision_after sound call there spared
    have stays : (s.router.after call).version? place ≠ none := by
      rw [there']
      exact Option.some_ne_none next
    have nextSound := (Router.edits_after sound call).sound sound
    exact follows (s := (s.call call).value.2) spares nextSound there'
      (lookup_versions_call call stays kept)

/-- A reader sees what is found there. -/
theorem version?_watch_callAll {calls : List (Call H A W)}
    (spares : s.router.Spares place calls) (sound : s.router.Sound)
    (there : s.router.version? place = some version)
    (kept : s.watch.versions.lookup key = some (.current place)) :
    (s.callAll calls).watch.version? (s.callAll calls).router key =
      ((s.callAll calls).router.version? place).map fun version => (place.version, version) := by
  rw [Watch.version?, lookup_versions_callAll spares sound there kept]

end Session

end VirtualHosting
