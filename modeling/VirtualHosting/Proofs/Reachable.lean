/-
# Proofs.Reachable — what holds of every reachable router

A call is a sequence of edits (`edits_after`): mostly one or none, and as many
as there are names where a host comes with aliases. So what one edit keeps, every
run of calls keeps, and both invariants hold of all reachable routers.

* `edits_addAliases`, `edits_deploy`: the calls that make several edits;
* `Reachable.sound`: both invariants, for the modules that read a router;
* `wellFormed_runAll`: all tables are in order after any run.
-/
import VirtualHosting.Proofs.Aliases

namespace VirtualHosting.Router

set_option autoImplicit false

variable {H A W : Type} {r next : Router H A W}

/-! ## Soundness -/

/-- Both invariants. -/
structure Sound (r : Router H A W) : Prop where
  wellFormed : r.WellFormed
  coherent : r.Coherent

theorem sound_empty : (empty : Router H A W).Sound :=
  ⟨WellFormed.empty, Coherent.empty⟩

theorem Edit.sound [DecidableEq A] [DecidableEq W] (edit : Edit r next) (sound : r.Sound) :
    next.Sound :=
  ⟨edit.wellFormed sound.wellFormed, edit.coherent sound.wellFormed sound.coherent⟩

theorem Edits.sound [DecidableEq A] [DecidableEq W] (edits : Edits r next) (sound : r.Sound) :
    next.Sound := by
  induction edits with
  | refl => exact sound
  | tail _ edit kept => exact edit.sound kept

theorem MayEdit.edits [DecidableEq A] [DecidableEq W] (may : MayEdit r next) : Edits r next :=
  Relation.ReflGen.to_reflTransGen may

/-- Every entry leads to a host. -/
theorem Sound.exists_realName (sound : r.Sound) {name : String} {entry : HostEntry H A W}
    (there : r.entries.find? name = some entry) :
    ∃ owner, r.host? (entry.realName name) = some owner := by
  cases entry with
  | real owner => exact ⟨owner, host?_eq_some_iff.2 there⟩
  | aliasOf name =>
    obtain ⟨owner, known⟩ := sound.coherent.owned _ _ there
    exact ⟨owner, host?_eq_some_iff.2 known⟩

/-! ## New names -/

theorem host?_of_insert? (ordered : r.entries.Ordered) {name : String} {host : Host H A W}
    {entries : Table (HostEntry H A W)}
    (inserted : r.entries.insert? name (.real host) = some entries) :
    ({ r with entries } : Router H A W).host? name = some host := by
  rw [host?_eq_some_iff, ordered.find?_insert? inserted, if_pos rfl]

/-- A free name is taken by its host. -/
theorem addHost_free [DecidableEq H] (ordered : r.entries.Ordered) {name : String}
    (free : r.entries.find? (normalizeHostName name) = none) (aliases : List String) (target : H) :
    ∃ entries, r.entries.insert? (normalizeHostName name) (.real { target }) = some entries ∧
      (r.addHost name aliases target).value =
        (.added, (({ r with entries } : Router H A W).addAliases
          (normalizeHostName name) aliases).value) := by
  cases inserted : r.entries.insert? (normalizeHostName name) (.real { target }) with
  | none =>
    rw [ordered.insert?_eq_none_iff] at inserted
    exact absurd inserted (ordered.find?_eq_none_iff.1 free)
  | some entries =>
    refine ⟨entries, rfl, ?_⟩
    rw [value_addHost, free]
    simp only [inserted]

/-- The host of a deployment is entered under its stored name, without aliases. -/
theorem addHost_stored [DecidableEq H] (ordered : r.entries.Ordered) {host : String}
    (free : r.entries.find? (normalizeHostName host) = none) (target : H) :
    ∃ entries, r.entries.insert? (normalizeHostName host) (.real { target }) = some entries ∧
      (r.addHost (normalizeHostName host) [] target).value = (.added, { r with entries }) := by
  rw [← normalize_normalize] at free
  obtain ⟨entries, inserted, answer⟩ := addHost_free ordered free [] target
  rw [normalize_normalize] at inserted
  exact ⟨entries, inserted, answer⟩

/-- A host is not lost to its aliases. -/
theorem host?_insertAlias (sound : r.Sound) {host : String} {owner : Host H A W}
    (owned : r.host? host = some owner) (name : String) :
    ∃ owner, (r.insertAlias host name).value.2.host? host = some owner := by
  rw [value_insertAlias]
  split
  · rename_i entries inserted
    have ordered := sound.wellFormed.ordered
    rw [host?_modifyHost (ordered.insert? inserted), if_pos rfl,
      host?_enterAlias ordered inserted, owned]
    exact ⟨_, rfl⟩
  · split <;> exact ⟨owner, owned⟩

/-! ## Hosts and aliases -/

variable [DecidableEq A] [DecidableEq W]

theorem mayEdit_insertAlias {host : String} {owner : Host H A W} (owned : r.host? host = some owner)
    (name : String) : MayEdit r (r.insertAlias host (normalizeHostName name)).value.2 := by
  rw [value_insertAlias]
  split
  · rename_i entries inserted
    exact .single (.enterAlias owned inserted)
  · split <;> exact .refl

theorem edits_addAliases (sound : r.Sound) {host : String} {owner : Host H A W}
    (owned : r.host? host = some owner) (names : List String) :
    Edits r (r.addAliases host names).value := by
  induction names generalizing r owner with
  | nil => exact .refl
  | cons name rest kept =>
    rw [value_addAliases_cons]
    have first := (mayEdit_insertAlias owned name).edits
    obtain ⟨owner', owned'⟩ := host?_insertAlias sound owned (normalizeHostName name)
    exact first.trans (kept (first.sound sound) owned')

theorem edits_addHost [DecidableEq H] (sound : r.Sound) (name : String) (aliases : List String)
    (target : H) : Edits r (r.addHost name aliases target).value.2 := by
  have ordered := sound.wellFormed.ordered
  cases there : r.entries.find? (normalizeHostName name) with
  | none =>
    obtain ⟨entries, inserted, answer⟩ := addHost_free ordered there aliases target
    rw [answer]
    have entered : Edit r { r with entries } := .enterHost inserted
    have owned := host?_of_insert? ordered inserted
    exact .head entered (edits_addAliases (entered.sound sound) owned aliases)
  | some entry =>
    rw [value_addHost, there]
    cases entry with
    | aliasOf host => exact .refl
    | real host =>
      dsimp only
      split
      · exact edits_addAliases sound (host?_eq_some_iff.2 there) aliases
      · exact .refl

theorem mayEdit_removeHost (r : Router H A W) (name : String) :
    MayEdit r (r.removeHost name).value.2 := by
  rw [value_removeHost]
  split
  · exact .refl
  · rename_i host known
    exact .single (.dropHost known)

theorem mayEdit_addAlias (sound : r.Sound) (host name : String) :
    MayEdit r (r.addAlias host name).value.2 := by
  rw [value_addAlias]
  split
  · exact .refl
  · rename_i entry there
    obtain ⟨owner, owned⟩ := sound.exists_realName there
    exact mayEdit_insertAlias owned name

theorem mayEdit_removeAlias (r : Router H A W) (name : String) :
    MayEdit r (r.removeAlias name).value.2 := by
  rw [value_removeAlias]
  split
  · rename_i host known
    split
    · exact .refl
    · rename_i entries erased
      exact .single (.dropAlias known erased)
  · exact .refl

/-! ## Deployments -/

theorem reachable_of_gather {application : String} {mappings : List (HandlerMapping W)}
    {set handlers : HandlerSet W} (reached : set.Reachable)
    (gathered : (gather application set mappings).value = .ok handlers) : handlers.Reachable := by
  induction mappings generalizing set with
  | nil =>
    obtain rfl := Except.ok.inj gathered
    exact reached
  | cons mapping rest kept =>
    rw [value_gather_cons] at gathered
    split at gathered
    · cases gathered
    · split at gathered
      · rename_i grown added
        exact kept (reached.step (.add added)) gathered
      · exact kept reached gathered

theorem mayEdit_deployOn {name : String} {host : Host H A W} (known : r.host? name = some host)
    (deployment : Deployment A W) {handlers : HandlerSet W} (gathered : handlers.Reachable) :
    MayEdit r (r.deployOn name host.mounts deployment handlers).value.2 := by
  rw [value_deployOn]
  split
  · rename_i published done
    exact .single (.deploy known gathered done)
  · exact .refl

/-- A version is deployed by one edit, after its host has been registered if it
is new. -/
theorem exists_mayEdit_deploy [DecidableEq H] (sound : r.Sound) (host : String) (hostTarget : H)
    (deployment : Deployment A W) :
    ∃ grown, MayEdit grown (r.deploy host hostTarget deployment).value.2 ∧
      (grown = r ∨ ∃ entries,
        r.entries.insert? (normalizeHostName host) (.real { target := hostTarget }) = some entries ∧
          grown = { r with entries }) := by
  rw [value_deploy]
  split
  · exact ⟨r, .refl, .inl rfl⟩
  · rename_i handlers gathered
    have reached := reachable_of_gather .empty gathered
    split
    · exact ⟨r, .refl, .inl rfl⟩
    · rename_i known there
      exact ⟨r, mayEdit_deployOn (host?_eq_some_iff.2 there) deployment reached, .inl rfl⟩
    · rename_i free
      have ordered := sound.wellFormed.ordered
      obtain ⟨entries, inserted, answer⟩ := addHost_stored ordered free hostTarget
      have owned := host?_of_insert? ordered inserted
      dsimp only
      rw [answer]
      exact ⟨{ r with entries }, mayEdit_deployOn owned deployment reached,
        .inr ⟨entries, inserted, rfl⟩⟩

theorem edits_deploy [DecidableEq H] (sound : r.Sound) (host : String) (hostTarget : H)
    (deployment : Deployment A W) : Edits r (r.deploy host hostTarget deployment).value.2 := by
  obtain ⟨grown, last, rfl | ⟨entries, inserted, rfl⟩⟩ :=
    exists_mayEdit_deploy sound host hostTarget deployment
  · exact last.edits
  · exact .head (.enterHost inserted) last.edits

theorem mayEdit_undeploy (r : Router H A W) (place : Coordinates) :
    MayEdit r (r.undeploy place).value.2 := by
  rw [value_undeploy]
  split
  · exact .refl
  · rename_i host known
    split
    · exact .refl
    · rename_i application mounted
      split
      · rename_i removed remaining deployed erased
        have known : r.host? (stored place).host = some host := known
        exact .single (.undeploy known mounted deployed erased)
      · exact .refl

/-! ## Versions -/

theorem mayRevise_pause (r : Router H A W) (place : Coordinates) (target : A) :
    MayRevise r (r.pause place target).value.2 := by
  unfold pause
  split
  · exact .refl r
  · rename_i version deployed
    split
    · exact .revise deployed (.pause version)
    · exact .refl r

omit [DecidableEq A] in
theorem mayRevise_addHandler (r : Router H A W) (place : Coordinates) (pattern : String)
    (target : W) (flags : HandlerFlags) :
    MayRevise r (r.addHandler place pattern target flags).value.2 := by
  unfold addHandler
  rw [Logged.value_bind]
  cases (readPattern pattern).value with
  | error refusal => exact .refl r
  | ok p =>
    dsimp only
    split
    · exact .refl r
    · rename_i version deployed
      split
      · rename_i handlers added
        exact .revise deployed (.handlers (.add added))
      · exact .refl r
      · exact .refl r

omit [DecidableEq A] in
theorem mayRevise_removeHandler (r : Router H A W) (place : Coordinates) (pattern : String) :
    MayRevise r (r.removeHandler place pattern).value.2 := by
  unfold removeHandler
  rw [Logged.value_bind]
  cases (readPattern pattern).value with
  | error refusal => exact .refl r
  | ok p =>
    dsimp only
    split
    · exact .refl r
    · rename_i version deployed
      split
      · exact .refl r
      · rename_i handlers removed
        exact .revise deployed (.handlers (.remove removed))

omit [DecidableEq A] in
theorem mayRevise_addWelcomeFile (r : Router H A W) (place : Coordinates) (name : String) :
    MayRevise r (r.addWelcomeFile place name).2 := by
  unfold addWelcomeFile
  split
  · exact .refl r
  · rename_i relative
    split
    · exact .refl r
    · rename_i version deployed
      split
      · exact .refl r
      · rename_i fresh
        exact .revise deployed (.addWelcome (by simpa using relative) fresh)

omit [DecidableEq A] in
theorem mayRevise_removeWelcomeFile (r : Router H A W) (place : Coordinates) (name : String) :
    MayRevise r (r.removeWelcomeFile place name).2 := by
  unfold removeWelcomeFile
  split
  · exact .refl r
  · rename_i version deployed
    split
    · rename_i listed
      exact .revise deployed (.removeWelcome listed)
    · exact .refl r

omit [DecidableEq A] in
theorem mayRevise_clearWelcomeFiles (r : Router H A W) (place : Coordinates) :
    MayRevise r (r.clearWelcomeFiles place).2 := by
  unfold clearWelcomeFiles
  split
  · exact .refl r
  · rename_i version deployed
    exact .revise deployed (.clearWelcome version)

/-! ## Runs -/

variable [DecidableEq H]

/-- **A call is a sequence of edits.** -/
theorem edits_after (sound : r.Sound) (call : Call H A W) : Edits r (r.after call) := by
  cases call with
  | setDefaultHost name => exact .single (.setDefault r name)
  | addHost name aliases target => exact edits_addHost sound name aliases target
  | removeHost name => exact (mayEdit_removeHost r name).edits
  | addAlias host name => exact (mayEdit_addAlias sound host name).edits
  | removeAlias name => exact (mayEdit_removeAlias r name).edits
  | deploy host hostTarget deployment => exact edits_deploy sound host hostTarget deployment
  | undeploy place => exact (mayEdit_undeploy r place).edits
  | pause place target => exact (mayRevise_pause r place target).mayEdit.edits
  | addHandler place pattern target flags =>
    exact (mayRevise_addHandler r place pattern target flags).mayEdit.edits
  | removeHandler place pattern => exact (mayRevise_removeHandler r place pattern).mayEdit.edits
  | addWelcomeFile place name => exact (mayRevise_addWelcomeFile r place name).mayEdit.edits
  | removeWelcomeFile place name => exact (mayRevise_removeWelcomeFile r place name).mayEdit.edits
  | clearWelcomeFiles place => exact (mayRevise_clearWelcomeFiles r place).mayEdit.edits

theorem Sound.runAll (sound : r.Sound) (calls : List (Call H A W)) : (r.runAll calls).Sound := by
  induction calls generalizing r with
  | nil => exact sound
  | cons call rest kept => exact kept ((edits_after sound call).sound sound)

/-- Both invariants hold of every reachable router. -/
theorem Reachable.sound (reachable : r.Reachable) : r.Sound := by
  obtain ⟨calls, rfl⟩ := reachable
  exact sound_empty.runAll calls

/-- **Whatever was called, every table is in order and every bound is exact.** -/
theorem wellFormed_runAll (calls : List (Call H A W)) :
    (runAll (empty : Router H A W) calls).WellFormed :=
  (sound_empty.runAll calls).wellFormed

end VirtualHosting.Router
