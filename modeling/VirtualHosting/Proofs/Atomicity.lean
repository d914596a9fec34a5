/-
# Proofs.Atomicity — a call does all or nothing, and does it once

A call that fails leaves the router as it found it, and a call that registers
something may be repeated: the second time there is nothing left to do. All calls
but the registration of a host keep to a simple rule, that the router is another
only if the answer says so (`Kept`). A host that is there already may gain aliases
without a word, though none the second time.

* `kept_run`: the rule, call by call;
* `addHost_again`, `addHandler_again`, `addWelcomeFile_again`: the second time, where
  the ledger does not tell;
* `run_again`: the second time, call by call;
* `reply_deploy_taken`: what a deployment over another comes to;
* `Reachable.calls_atomic`: failures change nothing, and nothing is done twice.
-/
import VirtualHosting.Proofs.Refinement
import VirtualHosting.Proofs.Repetition
import VirtualHosting.Proofs.Request

namespace VirtualHosting

set_option autoImplicit false

variable {H A W : Type}

/-! ## Answers -/

namespace Reply

/-- Whether a call was refused or found nothing to take away. -/
def failed : Reply → Bool
  | done => false
  | flag happened => !happened
  | registration outcome => !outcome.isRegistered
  | refused _ => true

/-- Whether a call says that it changed something. -/
def changed : Reply → Bool
  | done => true
  | flag happened => happened
  | registration outcome => outcome == .added
  | refused _ => false

theorem changed_of_failed {reply : Reply} (failed : reply.failed = true) :
    reply.changed = false := by
  cases reply with
  | done => cases failed
  | flag happened =>
    cases happened with
    | false => rfl
    | true => cases failed
  | registration outcome =>
    cases outcome with
    | added | unchanged => cases failed
    | rejected => rfl
  | refused refusal => rfl

end Reply

/-- Either a call registers a host or it is another. -/
theorem Call.addHost_or_ne (call : Call H A W) :
    (∃ name aliases target, call = .addHost name aliases target) ∨
      ∀ name aliases target, call ≠ .addHost name aliases target := by
  cases call with
  | addHost name aliases target => exact .inl ⟨name, aliases, target, rfl⟩
  | _ => exact .inr nofun

namespace Router

variable {r : Router H A W} {name host : String} {place : Coordinates} {version : Version A W}

/-! ## Nothing changes without a word -/

/-- An answer that comes with the same router, unless it says that something
changed. -/
def Kept (r : Router H A W) (answer : Reply × Router H A W) : Prop :=
  answer.1.changed = false → answer.2 = r

namespace Kept

theorem same (r : Router H A W) (reply : Reply) : r.Kept (reply, r) :=
  fun _ => rfl

theorem of_changed {reply : Reply} (changed : reply.changed = true) (next : Router H A W) :
    r.Kept (reply, next) := by
  intro idle
  cases changed.symm.trans idle

end Kept

theorem kept_insertAlias (r : Router H A W) (host name : String) :
    r.Kept (Prod.map .registration id (r.insertAlias host name).value) := by
  rw [value_insertAlias]
  split
  · exact .of_changed rfl _
  · split <;> exact .same r _

theorem kept_removeHost (r : Router H A W) (name : String) :
    r.Kept (Prod.map .flag id (r.removeHost name).value) := by
  rw [value_removeHost]
  split
  · exact .same r _
  · exact .of_changed rfl _

theorem kept_addAlias (r : Router H A W) (host name : String) :
    r.Kept (Prod.map .ofRegistration id (r.addAlias host name).value) := by
  rw [value_addAlias]
  split
  · exact .same r _
  · exact kept_insertAlias r _ _

theorem kept_removeAlias (r : Router H A W) (name : String) :
    r.Kept (Prod.map .flag id (r.removeAlias name).value) := by
  rw [value_removeAlias]
  split
  · split
    · exact .same r _
    · exact .of_changed rfl _
  · exact .same r _

section Deployments

variable [DecidableEq A]

theorem kept_deployOn (r : Router H A W) (host : String) (mounts : Mounts A W)
    (deployment : Deployment A W) (handlers : HandlerSet W) :
    r.Kept (Prod.map .registration id (r.deployOn host mounts deployment handlers).value) := by
  rw [value_deployOn]
  split
  · exact .of_changed rfl _
  · exact .same r _

/-- A host that is new has nothing in the way of a deployment, so it is not left
behind without one. -/
theorem added_deployOn_empty (r : Router H A W) (host : String) (deployment : Deployment A W)
    (handlers : HandlerSet W) :
    (r.deployOn host .empty deployment handlers).value.1 = .added := by
  have nothing :
      (Mounts.empty : Mounts A W).version? deployment.path deployment.version = none := by
    rw [Mounts.version?, Mounts.find?_empty, Option.bind_none]
  obtain ⟨published, done, _⟩ :=
    exists_deployOn_free Mounts.WellFormed.empty nothing r host handlers
  rw [done]

theorem kept_deploy [DecidableEq H] [DecidableEq W] (r : Router H A W) (host : String)
    (hostTarget : H) (deployment : Deployment A W) :
    r.Kept (Prod.map .ofRegistration id (r.deploy host hostTarget deployment).value) := by
  rw [value_deploy]
  split
  · exact .same r _
  · rename_i handlers _
    split
    · exact .same r _
    · rename_i known _
      exact kept_deployOn r _ known.mounts deployment handlers
    · have added := added_deployOn_empty
        (r.addHost (normalizeHostName host) [] hostTarget).value.2 (normalizeHostName host)
        deployment handlers
      refine .of_changed ?_ _
      rw [added]
      rfl

theorem kept_undeploy (r : Router H A W) (place : Coordinates) :
    r.Kept (Prod.map .flag id (r.undeploy place).value) := by
  rw [value_undeploy]
  split
  · exact .same r _
  · split
    · exact .same r _
    · split
      · exact .of_changed rfl _
      · exact .same r _

theorem kept_pause (r : Router H A W) (place : Coordinates) (target : A) :
    r.Kept (Prod.map .flag id (r.pause place target).value) := by
  unfold pause
  split
  · exact .same r _
  · split
    · exact .of_changed rfl _
    · exact .same r _

end Deployments

theorem kept_addHandler [DecidableEq W] (r : Router H A W) (place : Coordinates) (pattern : String)
    (target : W) (flags : HandlerFlags) :
    r.Kept (Prod.map .ofRegistration id (r.addHandler place pattern target flags).value) := by
  rw [value_addHandler]
  split
  · exact .same r _
  · split
    · exact .same r _
    · split
      · exact .of_changed rfl _
      · exact .same r _
      · exact .same r _

theorem kept_removeHandler (r : Router H A W) (place : Coordinates) (pattern : String) :
    r.Kept (Prod.map .ofFlag id (r.removeHandler place pattern).value) := by
  rw [value_removeHandler]
  split
  · exact .same r _
  · split
    · exact .same r _
    · split
      · exact .same r _
      · exact .of_changed rfl _

theorem kept_addWelcomeFile (r : Router H A W) (place : Coordinates) (name : String) :
    r.Kept (Prod.map .ofRegistration id (r.addWelcomeFile place name)) := by
  unfold addWelcomeFile
  split
  · exact .same r _
  · split
    · exact .same r _
    · split
      · exact .same r _
      · exact .of_changed rfl _

theorem kept_removeWelcomeFile (r : Router H A W) (place : Coordinates) (name : String) :
    r.Kept (Prod.map .ofFlag id (r.removeWelcomeFile place name)) := by
  unfold removeWelcomeFile
  split
  · exact .same r _
  · split
    · exact .of_changed rfl _
    · exact .same r _

theorem kept_clearWelcomeFiles (r : Router H A W) (place : Coordinates) :
    r.Kept (Prod.map .ofDone id (r.clearWelcomeFiles place)) := by
  unfold clearWelcomeFiles
  split
  · exact .same r _
  · exact .of_changed rfl _

/-! ## Hosts -/

theorem addHost_rejected [DecidableEq H] {aliases : List String} {target : H}
    (rejected : (r.addHost name aliases target).value.1 = .rejected) :
    (r.addHost name aliases target).value.2 = r := by
  rw [value_addHost] at rejected ⊢
  cases there : r.entries.find? (normalizeHostName name) with
  | none =>
    rw [there] at rejected
    cases rejected
  | some entry =>
    cases entry with
    | aliasOf owner => rfl
    | real known =>
      rw [there] at rejected
      by_cases same : known.target = target
      · cases (congrArg Prod.fst (if_pos same)).symm.trans rejected
      · exact congrArg Prod.snd (if_neg same)

/-- Aliases that are all taken are all passed over. -/
theorem addAliases_taken (ordered : r.entries.Ordered) {aliases : List String}
    (taken : ∀ other ∈ aliases, r.entries.find? (normalizeHostName other) ≠ none) (host : String) :
    (r.addAliases host aliases).value = r := by
  induction aliases with
  | nil => rfl
  | cons other rest kept =>
    have refused : r.entries.insert? (normalizeHostName other) (.aliasOf host) = none := by
      rw [ordered.insert?_eq_none_iff, ← ordered.isSome_find?_iff]
      exact Option.isSome_iff_ne_none.2 (taken other List.mem_cons_self)
    have passed : (r.insertAlias host (normalizeHostName other)).value.2 = r := by
      rw [value_insertAlias, refused]
      dsimp only
      split <;> rfl
    rw [value_addAliases_cons, passed]
    exact kept fun later listed => taken later (List.mem_cons_of_mem _ listed)

theorem addHost_settled [DecidableEq H] (ordered : r.entries.Ordered) {owner : Host H A W}
    (known : r.host? (normalizeHostName name) = some owner) {aliases : List String}
    (taken : ∀ other ∈ aliases, r.entries.find? (normalizeHostName other) ≠ none) :
    (r.addHost name aliases owner.target).value = (.unchanged, r) := by
  rw [value_addHost, host?_eq_some_iff.1 known]
  simp only [if_true, addAliases_taken ordered taken]

/-- A host registered again has all its aliases already. -/
theorem addHost_again [DecidableEq H] [DecidableEq A] [DecidableEq W] (sound : r.Sound)
    {aliases : List String} {target : H}
    (registered : (r.addHost name aliases target).value.1 ≠ .rejected) :
    ((r.addHost name aliases target).value.2.addHost name aliases target).value =
      (.unchanged, (r.addHost name aliases target).value.2) := by
  have filed := file_addHost sound name aliases target
  have nextSound := (edits_addHost sound name aliases target).sound sound
  -- the ledger tells which names are taken afterwards, and no more is needed of the call
  generalize (r.addHost name aliases target).value = answer at *
  obtain ⟨outcome, next⟩ := answer
  have entered (done : (r.ledger.addHost (normalizeHostName name)
      (aliases.map normalizeHostName) target).1 ≠ .rejected) := Ledger.names_addHost done
  rw [← filed] at entered
  obtain ⟨known, taken⟩ := entered registered
  obtain ⟨owner, there, rfl⟩ := names_ledger_eq_host_iff.1 known
  apply addHost_settled nextSound.wellFormed.ordered there
  intro other listed missing
  exact taken _ (List.mem_map_of_mem listed) (names_ledger_eq_none_iff.2 missing)

/-! ## Versions -/

/-- A handler is added to a version in a slot that was free. -/
theorem exists_of_addHandler_added [DecidableEq W] {pattern : String} {target : W}
    {flags : HandlerFlags}
    (added : (r.addHandler place pattern target flags).value.1 = .ok .added) :
    ∃ p version, Pattern.parse pattern = .ok p ∧ r.find place = .ok version ∧
      version.handlers.find? p = none ∧ (r.addHandler place pattern target flags).value.2 =
        r.modifyVersion place (·.withHandlers (version.handlers.place p ⟨target, flags⟩)) := by
  rw [value_addHandler] at added ⊢
  cases read : Pattern.parse pattern with
  | error fault =>
    rw [read] at added
    cases added
  | ok p =>
    cases deployed : r.find place with
    | error refusal =>
      simp only [read, deployed] at added
      cases added
    | ok version =>
      simp only [read, deployed] at added
      cases placed : version.handlers.add p target flags with
      | unchanged | conflict =>
        rw [placed] at added
        cases added
      | changed handlers =>
        obtain ⟨free, rfl⟩ := HandlerSet.add_eq_changed_iff.1 placed
        exact ⟨p, version, rfl, rfl, free, by simp only [placed]⟩

/-- A handler added is there when it is added again. -/
theorem addHandler_again [DecidableEq W] (sound : r.Sound) {pattern : String} {target : W}
    {flags : HandlerFlags}
    (added : (r.addHandler place pattern target flags).value.1 = .ok .added) :
    ((r.addHandler place pattern target flags).value.2.addHandler place pattern target
      flags).value.1 = .ok .unchanged := by
  obtain ⟨p, version, read, deployed, free, after⟩ := exists_of_addHandler_added added
  have ordered := sound.wellFormed.of_version? (find_eq_ok_iff.1 deployed)
  have there := ordered.handlers.find?_place free ⟨target, flags⟩
  have taken : (version.handlers.place p ⟨target, flags⟩).add p target flags = .unchanged := by
    rw [HandlerSet.add, there]
    exact if_pos rfl
  rw [after, value_addHandler, read, find_modifyVersion sound.wellFormed deployed]
  simp only [Version.withHandlers, taken]

/-- A welcome file added is listed when it is added again. -/
theorem addWelcomeFile_again (sound : r.Sound)
    (added : (r.addWelcomeFile place name).1 = .ok .added) :
    ((r.addWelcomeFile place name).2.addWelcomeFile place name).1 = .ok .unchanged := by
  cases relative : isWelcomeName name with
  | false => simp [addWelcomeFile, relative] at added
  | true =>
    cases deployed : r.find place with
    | error refusal => simp [addWelcomeFile, relative, deployed] at added
    | ok version =>
      by_cases listed : name ∈ version.settings.welcomeFiles
      · simp [addWelcomeFile, relative, deployed, listed] at added
      · have first :
            (r.addWelcomeFile place name).2 = r.modifyVersion place (·.addWelcome name) := by
          simp [addWelcomeFile, relative, deployed, listed]
        have deployed' := find_modifyVersion sound.wellFormed deployed (·.addWelcome name)
        rw [first]
        simp [addWelcomeFile, relative, deployed']

/-! ## All calls -/

variable [DecidableEq H] [DecidableEq A] [DecidableEq W]

/-- **No call changes anything without a word**, but the registration of a host. -/
theorem kept_run (r : Router H A W) (call : Call H A W)
    (other : ∀ name aliases target, call ≠ .addHost name aliases target) :
    r.Kept (r.run call).value := by
  cases call with
  | setDefaultHost name => exact .of_changed rfl _
  | addHost name aliases target => exact absurd rfl (other name aliases target)
  | removeHost name => exact kept_removeHost r name
  | addAlias host name => exact kept_addAlias r host name
  | removeAlias name => exact kept_removeAlias r name
  | deploy host hostTarget deployment => exact kept_deploy r host hostTarget deployment
  | undeploy place => exact kept_undeploy r place
  | pause place target => exact kept_pause r place target
  | addHandler place pattern target flags => exact kept_addHandler r place pattern target flags
  | removeHandler place pattern => exact kept_removeHandler r place pattern
  | addWelcomeFile place name => exact kept_addWelcomeFile r place name
  | removeWelcomeFile place name => exact kept_removeWelcomeFile r place name
  | clearWelcomeFiles place => exact kept_clearWelcomeFiles r place

/-- What is deployed over a version comes to nothing: its patterns are refused, or
the version stays, for another target or the same. -/
theorem reply_deploy_taken (sound : r.Sound) {deployment : Deployment A W}
    (there : r.version? ⟨normalizeHostName host, deployment.path, deployment.version⟩ =
      some version) (hostTarget : H) :
    (r.run (.deploy host hostTarget deployment)).value.1 =
      match Ledger.firstFault deployment.handlers with
      | some refusal => .refused refusal
      | none =>
        .registration (if version.target = deployment.target then .unchanged else .rejected) := by
  obtain ⟨owner, known, _⟩ := Option.bind_eq_some_iff.1 there
  have standing := names_ledger_eq_host_iff.2 ⟨owner, known, rfl⟩
  have taken : r.ledger.deployed ⟨normalizeHostName host, deployment.path, deployment.version⟩ =
      some version.target := by
    show (r.version? _).map (·.target) = _
    rw [there]
    rfl
  have filed := congrArg Prod.fst (file_run sound (.deploy host hostTarget deployment))
  refine filed.trans ?_
  cases readable : Ledger.firstFault deployment.handlers with
  | some refusal => simp only [Ledger.file, Ledger.deploy, readable]; rfl
  | none =>
    rw [Ledger.file, Ledger.deploy_taken standing taken readable]
    rfl

/-- What the ledger shows to be registered is registered already. -/
theorem reply_file_again (sound : r.Sound) (filing : Filing H A W)
    (registered : (r.run filing.toCall).value.1.registered = true) :
    ((r.after filing.toCall).run filing.toCall).value.1 = .registration .unchanged := by
  have first := file_run sound filing
  have second := file_run ((edits_after sound filing.toCall).sound sound) filing
  have answer : (r.run filing.toCall).value.1 = (r.ledger.file filing).1 := congrArg Prod.fst first
  have behind : (r.after filing.toCall).ledger = (r.ledger.file filing).2 := congrArg Prod.snd first
  rw [answer] at registered
  refine (congrArg Prod.fst second).trans ?_
  rw [behind]
  exact Ledger.file_again filing registered

/-- A call that changes nothing without a word may be made again, if it may where it
changed something. -/
theorem reply_again_of_added {call : Call H A W}
    (other : ∀ name aliases target, call ≠ .addHost name aliases target)
    (registered : (r.run call).value.1.registered = true)
    (again : (r.run call).value.1 = .registration .added →
      ((r.after call).run call).value.1 = .registration .unchanged) :
    ((r.after call).run call).value.1 = .registration .unchanged := by
  cases reply : (r.run call).value.1 with
  | done | flag | refused =>
    rw [reply] at registered
    cases registered
  | registration outcome =>
    cases outcome with
    | added => exact again reply
    | rejected =>
      rw [reply] at registered
      cases registered
    | unchanged =>
      -- nothing changed, so the second call is the first
      have same : r.after call = r := by
        apply kept_run r call other
        rw [reply]
        rfl
      rw [same, reply]

/-- What was registered is registered already when the call is made again. -/
theorem reply_again (sound : r.Sound) (call : Call H A W)
    (registered : (r.run call).value.1.registered = true) :
    ((r.after call).run call).value.1 = .registration .unchanged := by
  cases call with
  | addHost name aliases target =>
    exact reply_file_again sound (.addHost name aliases target) registered
  | addAlias host name => exact reply_file_again sound (.addAlias host name) registered
  | deploy host hostTarget deployment =>
    exact reply_file_again sound (.deploy host hostTarget deployment) registered
  | addHandler place pattern target flags =>
    apply reply_again_of_added nofun registered
    intro added
    have done := Reply.ofRegistration_eq_registration_iff.1 added
    exact congrArg Reply.ofRegistration (addHandler_again sound done)
  | addWelcomeFile place name =>
    apply reply_again_of_added nofun registered
    intro added
    have done := Reply.ofRegistration_eq_registration_iff.1 added
    exact congrArg Reply.ofRegistration (addWelcomeFile_again sound done)
  | removeHandler place pattern =>
    exact absurd registered (Bool.eq_false_iff.1 (Reply.registered_ofFlag _))
  | removeWelcomeFile place name =>
    exact absurd registered (Bool.eq_false_iff.1 (Reply.registered_ofFlag _))
  | clearWelcomeFiles place =>
    exact absurd registered (Bool.eq_false_iff.1 (Reply.registered_ofDone _))
  | setDefaultHost | removeHost | removeAlias | undeploy | pause => cases registered

/-- A registration made again changes nothing. -/
theorem run_again (sound : r.Sound) (call : Call H A W)
    (registered : (r.run call).value.1.registered = true) :
    ((r.after call).run call).value = (.registration .unchanged, r.after call) := by
  have reply := reply_again sound call registered
  refine Prod.ext reply ?_
  rcases call.addHost_or_ne with ⟨name, aliases, target, rfl⟩ | other
  · have done := (Registration.isRegistered_iff _).1 registered
    have settled := congrArg Prod.snd (addHost_again sound done)
    exact settled
  · apply kept_run (r.after call) call other
    rw [reply]
    rfl

/-- A call that fails changes nothing. -/
theorem after_eq_of_failed (call : Call H A W) (failed : (r.run call).value.1.failed = true) :
    r.after call = r := by
  rcases call.addHost_or_ne with ⟨name, aliases, target, rfl⟩ | other
  · apply addHost_rejected
    by_contra registered
    have done := (Registration.isRegistered_iff _).2 registered
    exact absurd failed (by simp [run, Reply.failed, done])
  · exact kept_run r call other (Reply.changed_of_failed failed)

/-- **Calls are atomic**: one that fails leaves the router as it was. One that
registers something may be made again and changes nothing then. A version stays as
it is, whatever is deployed over it. -/
theorem Reachable.calls_atomic (reachable : r.Reachable) :
    (∀ call, (r.run call).value.1.failed = true → r.after call = r) ∧
    (∀ call, (r.run call).value.1.registered = true →
      ((r.after call).run call).value = (.registration .unchanged, r.after call)) ∧
    ∀ host hostTarget deployment version,
      r.version? ⟨normalizeHostName host, deployment.path, deployment.version⟩ = some version →
        r.after (.deploy host hostTarget deployment) = r ∧
        ((∀ mapping ∈ deployment.handlers, ∃ p, Pattern.parse mapping.pattern = .ok p) →
          (r.run (.deploy host hostTarget deployment)).value.1 =
            .registration
              (if version.target = deployment.target then .unchanged else .rejected)) := by
  have sound := reachable.sound
  refine ⟨after_eq_of_failed, run_again sound, ?_⟩
  intro host hostTarget deployment version there
  have reply := reply_deploy_taken sound there hostTarget
  constructor
  · refine kept_run r _ nofun ?_
    rw [reply]
    split
    · rfl
    · split <;> rfl
  · intro readable
    rw [reply, Ledger.firstFault_eq_none_iff.2 readable]

/-- A host with an alias and a version that is paused. -/
def pausedVersion : Router Nat Nat Nat :=
  runAll empty
    [.addHost "h" ["w"] 0, .deploy "h" 0 { path := "/a", target := 1 }, .pause ⟨"h", "/a", ""⟩ 1]

/-- An alias is no host to deploy on. A host gains an alias once, and a paused
version stays paused under a deployment with other handlers. -/
theorem calls_atomic_pausedVersion :
    pausedVersion.after (.deploy "w" 0 { path := "/b", target := 2 }) = pausedVersion ∧
      ((pausedVersion.after (.addHost "h" ["w", "v"] 0)).run (.addHost "h" ["w", "v"] 0)).value =
        (.registration .unchanged, pausedVersion.after (.addHost "h" ["w", "v"] 0)) ∧
      pausedVersion.after
        (.deploy "h" 0 { path := "/a", target := 1, handlers := [⟨"/x", 7, {}⟩] }) =
          pausedVersion := by
  have reachable : pausedVersion.Reachable := ⟨_, rfl⟩
  obtain ⟨failures, repeats, redeployed⟩ := reachable.calls_atomic
  have deployed : (pausedVersion.version? ⟨normalizeHostName "h", "/a", ""⟩).isSome := by
    decide +kernel
  obtain ⟨version, there⟩ := Option.isSome_iff_exists.1 deployed
  refine ⟨?_, ?_, ?_⟩
  · exact failures (.deploy "w" 0 { path := "/b", target := 2 }) (by decide +kernel)
  · exact repeats (.addHost "h" ["w", "v"] 0) (by decide +kernel)
  · exact (redeployed "h" 0 { path := "/a", target := 1, handlers := [⟨"/x", 7, {}⟩] } version
      there).1

end Router

end VirtualHosting
