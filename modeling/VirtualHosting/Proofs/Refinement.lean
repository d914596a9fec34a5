/-
# Proofs.Refinement — registrations refine the ledger

Every call that registers or withdraws a host, an alias or a version answers as
the ledger does and leaves the ledger behind that the ledger leaves. A run of such
calls is one step after another, so all answers are those of the ledger, and the
router agrees with it at the end.

* `ledger_addAliases`: the aliases of a host, one by one;
* `file_addHost`, `file_removeHost`, `file_addAlias`, `file_removeAlias`,
  `file_deploy`, `file_undeploy`: one square for each call;
* `file_run`: the step;
* `runAll_refines`: the run.
-/
import VirtualHosting.Proofs.Abstraction

namespace VirtualHosting.Router

set_option autoImplicit false

variable {H A W : Type} {r : Router H A W} {name host : String} {owner : Host H A W}

/-! ## Aliases -/

theorem ledger_insertAlias (ordered : r.entries.Ordered) (host name : String) :
    (r.insertAlias host name).value.2.ledger = r.ledger.enterFree host name := by
  rw [value_insertAlias, Ledger.enterFree]
  cases inserted : r.entries.insert? name (.aliasOf host) with
  | none =>
    have taken := ordered.insert?_eq_none_iff.1 inserted
    obtain ⟨entry, there⟩ := Option.isSome_iff_exists.1 (ordered.isSome_find?_iff.2 taken)
    rw [names_ledger, there]
    dsimp only [Option.map_some]
    split <;> rfl
  | some entries =>
    have fresh := ordered.not_mem_of_insert? inserted
    have nextOrdered : ({ r with entries } : Router H A W).entries.Ordered :=
      ordered.insert? inserted
    rw [names_ledger_eq_none_iff.2 (ordered.find?_eq_none_iff.2 fresh)]
    have listed := ledger_modifyAliases nextOrdered host (· ++ [name])
    exact listed.trans (ledger_insert ordered inserted nofun)

theorem outcome_insertAlias (ordered : r.entries.Ordered) (host name : String) :
    (r.insertAlias host name).value.1 =
      match r.ledger.names name with
      | none => .added
      | some taken => if taken.realName name = host then .unchanged else .rejected := by
  rw [value_insertAlias]
  cases inserted : r.entries.insert? name (.aliasOf host) with
  | none =>
    have taken := ordered.insert?_eq_none_iff.1 inserted
    obtain ⟨entry, there⟩ := Option.isSome_iff_exists.1 (ordered.isSome_find?_iff.2 taken)
    rw [names_ledger, there]
    simp only [Option.map_some, Option.any_some, HostEntry.belongsTo, beq_iff_eq,
      HostEntry.realName_standing]
    split <;> rfl
  | some entries =>
    have fresh := ordered.not_mem_of_insert? inserted
    rw [names_ledger_eq_none_iff.2 (ordered.find?_eq_none_iff.2 fresh)]

/-- Of the aliases of a host, those that are free come into the ledger. -/
theorem ledger_addAliases [DecidableEq A] [DecidableEq W] (sound : r.Sound)
    (owned : r.host? host = some owner)
    (names : List String) :
    (r.addAliases host names).value.ledger =
      (names.map normalizeHostName).foldl (Ledger.enterFree host) r.ledger := by
  induction names generalizing r owner with
  | nil => rfl
  | cons name rest same =>
    obtain ⟨owner', owned'⟩ := host?_insertAlias sound owned (normalizeHostName name)
    have grown := (mayEdit_insertAlias owned name).edits.sound sound
    rw [value_addAliases_cons, same grown owned', ledger_insertAlias sound.wellFormed.ordered]
    rfl

/-! ## Hosts -/

theorem file_addHost [DecidableEq H] [DecidableEq A] [DecidableEq W] (sound : r.Sound)
    (name : String) (aliases : List String) (target : H) :
    Prod.map id ledger (r.addHost name aliases target).value =
      r.ledger.addHost (normalizeHostName name) (aliases.map normalizeHostName) target := by
  have ordered := sound.wellFormed.ordered
  unfold Ledger.addHost
  cases there : r.entries.find? (normalizeHostName name) with
  | none =>
    obtain ⟨entries, inserted, answer⟩ := addHost_free ordered there aliases target
    have entered : Edit r { r with entries } := .enterHost inserted
    rw [answer, names_ledger_eq_none_iff.2 there, Prod.map_apply,
      ledger_addAliases (entered.sound sound) (host?_of_insert? ordered inserted),
      ledger_enterHost ordered inserted]
    rfl
  | some entry =>
    rw [value_addHost, names_ledger, there]
    cases entry with
    | aliasOf owner => rfl
    | real host =>
      simp only [Option.map_some, HostEntry.standing]
      split
      · rw [Prod.map_apply, ledger_addAliases sound (host?_eq_some_iff.2 there)]
        rfl
      · rfl

theorem file_removeHost (sound : r.Sound) (name : String) :
    Prod.map id ledger (r.removeHost name).value =
      r.ledger.removeHost (normalizeHostName name) := by
  have ordered := sound.wellFormed.ordered
  rw [value_removeHost]
  unfold Ledger.removeHost
  cases there : r.entries.find? (normalizeHostName name) with
  | none => rw [host?_of_find?_eq_none there, names_ledger_eq_none_iff.2 there]; rfl
  | some entry =>
    cases entry with
    | aliasOf owner =>
      have unknown : r.host? (normalizeHostName name) = none := by rw [host?, there]
      rw [unknown, names_ledger_eq_aliasOf_iff.2 there]
      rfl
    | real host =>
      have known := host?_eq_some_iff.2 there
      rw [known, names_ledger_eq_host_iff.2 ⟨host, known, rfl⟩]
      exact congrArg (Prod.mk true) (ledger_leave ordered _)

theorem file_addAlias (sound : r.Sound) (host name : String) :
    Prod.map id ledger (r.addAlias host name).value =
      r.ledger.addAlias (normalizeHostName host) (normalizeHostName name) := by
  rw [value_addAlias]
  unfold Ledger.addAlias
  cases there : r.entries.find? (normalizeHostName host) with
  | none =>
    rw [names_ledger_eq_none_iff.2 there]
    rfl
  | some entry =>
    have outcome := outcome_insertAlias sound.wellFormed.ordered
      (entry.realName (normalizeHostName host)) (normalizeHostName name)
    have grown := ledger_insertAlias sound.wellFormed.ordered
      (entry.realName (normalizeHostName host)) (normalizeHostName name)
    rw [names_ledger r (normalizeHostName host), there]
    dsimp only [Option.map_some]
    rw [HostEntry.realName_standing, Prod.map_apply, grown, outcome, Ledger.enterFree]
    cases r.ledger.names (normalizeHostName name) with
    | none => rfl
    | some taken =>
      dsimp only
      split <;> rfl

theorem file_removeAlias (sound : r.Sound) (name : String) :
    Prod.map id ledger (r.removeAlias name).value =
      r.ledger.removeAlias (normalizeHostName name) := by
  have ordered := sound.wellFormed.ordered
  rw [value_removeAlias]
  unfold Ledger.removeAlias
  rw [names_ledger]
  cases there : r.entries.find? (normalizeHostName name) with
  | none => rfl
  | some entry =>
    cases entry with
    | real host => rfl
    | aliasOf owner =>
      cases erased : r.entries.erase? (normalizeHostName name) with
      | none =>
        rw [ordered.erase?_eq_none_iff] at erased
        exact absurd (Table.mem_names_of_mem (ordered.find?_eq_some_iff.1 there)) erased
      | some entries =>
        have nextOrdered : ({ r with entries } : Router H A W).entries.Ordered :=
          ordered.erase? erased
        have unlisted := ledger_modifyAliases nextOrdered owner (·.erase (normalizeHostName name))
        exact congrArg (Prod.mk true) (unlisted.trans (ledger_erase ordered there erased))

/-! ## Deployments -/

/-- The patterns are read in order up to the first malformed one. -/
theorem value_gather_eq [DecidableEq W] (application : String)
    (mappings : List (HandlerMapping W)) (set : HandlerSet W) :
    match Ledger.firstFault mappings with
    | some refusal => (gather application set mappings).value = .error refusal
    | none => ∃ handlers, (gather application set mappings).value = .ok handlers := by
  induction mappings generalizing set with
  | nil => exact ⟨set, rfl⟩
  | cons mapping rest read =>
    rw [value_gather_cons, Ledger.firstFault, List.findSome?_cons]
    cases Pattern.parse mapping.pattern with
    | error fault => rfl
    | ok p =>
      dsimp only
      cases set.add p mapping.target mapping.flags with
      | changed next => exact read next
      | unchanged | conflict => exact read set

theorem file_deployOn [DecidableEq A] (sound : r.Sound) (known : r.host? name = some owner)
    (deployment : Deployment A W) (handlers : HandlerSet W) :
    Prod.map id ledger (r.deployOn name owner.mounts deployment handlers).value =
      r.ledger.publish ⟨name, deployment.path, deployment.version⟩ deployment.target := by
  have ordered := sound.wellFormed.of_host? known
  rw [Ledger.publish, deployed_ledger_of_host? known]
  cases there : owner.mounts.version? deployment.path deployment.version with
  | none =>
    obtain ⟨published, done, changed⟩ := exists_deployOn_free ordered there r name handlers
    have grown := ledger_modifyMounts_update sound.wellFormed.ordered known
      (f := fun _ => published) changed
    rw [done]
    exact congrArg (Prod.mk Registration.added) grown
  | some existing =>
    rw [value_deployOn_taken ordered there]
    rfl

theorem file_deploy [DecidableEq H] [DecidableEq A] [DecidableEq W] (sound : r.Sound)
    (host : String) (hostTarget : H) (deployment : Deployment A W) :
    Prod.map id ledger (r.deploy host hostTarget deployment).value =
      r.ledger.deploy (normalizeHostName host) hostTarget deployment := by
  rw [value_deploy, Ledger.deploy]
  have read := value_gather_eq deployment.path deployment.handlers .empty
  cases faulty : Ledger.firstFault deployment.handlers with
  | some refusal =>
    rw [faulty] at read
    rw [read]
    rfl
  | none =>
    rw [faulty] at read
    obtain ⟨handlers, gathered⟩ := read
    rw [gathered]
    dsimp only
    cases there : r.entries.find? (normalizeHostName host) with
    | none =>
      have ordered := sound.wellFormed.ordered
      obtain ⟨entries, inserted, answer⟩ := addHost_stored ordered there hostTarget
      have entered : Edit r { r with entries } := .enterHost inserted
      have done := file_deployOn (entered.sound sound) (host?_of_insert? ordered inserted)
        deployment handlers
      rw [ledger_enterHost ordered inserted] at done
      rw [answer, names_ledger_eq_none_iff.2 there]
      dsimp only
      rw [← done]
      rfl
    | some entry =>
      rw [names_ledger, there]
      cases entry with
      | aliasOf owner => rfl
      | real owner =>
        have done := file_deployOn sound (host?_eq_some_iff.2 there) deployment handlers
        dsimp only [Option.map_some, HostEntry.standing]
        rw [← done]
        rfl

theorem file_undeploy [DecidableEq A] (sound : r.Sound) (place : Coordinates) :
    Prod.map id ledger (r.undeploy place).value = r.ledger.undeploy (stored place) := by
  rw [value_undeploy, Ledger.undeploy]
  cases known : r.host? (normalizeHostName place.host) with
  | none =>
    have nothing : r.ledger.deployed (stored place) = none := by
      rw [deployed_ledger, stored, known]
      rfl
    rw [nothing]
    rfl
  | some host =>
    have ordered := sound.wellFormed.of_host? known
    have deployed : r.ledger.deployed (stored place) =
        (host.mounts.version? place.path place.version).map (·.target) :=
      deployed_ledger_of_host? known place.path place.version
    rw [deployed]
    cases mounted : host.mounts.find? place.path with
    | none =>
      simp only [Mounts.version?, mounted]
      rfl
    | some application =>
      have versionsOrdered := (ordered.of_find? mounted).ordered
      simp only [Mounts.WellFormed.version?_of_find? mounted, mounted]
      cases there : application.versions.find? place.version with
      | none => rfl
      | some removed =>
        cases erased : application.versions.erase? place.version with
        | none =>
          rw [versionsOrdered.erase?_eq_none_iff] at erased
          have named := Table.mem_names_of_mem (versionsOrdered.find?_eq_some_iff.1 there)
          exact absurd named erased
        | some remaining =>
          have shrunk := ledger_modifyMounts_update (f := fun mounts =>
            if remaining.isEmpty then (mounts.remove? place.path).getD mounts
            else mounts.modifyVersions place.path fun _ => remaining)
            sound.wellFormed.ordered known (ordered.version?_withdraw mounted erased)
          exact congrArg (Prod.mk true) shrunk

/-! ## Runs -/

variable [DecidableEq H] [DecidableEq A] [DecidableEq W]

/-- **One call**: the ledger gives the same answer, and the ledger behind it. -/
theorem file_run (sound : r.Sound) (filing : Filing H A W) :
    Prod.map id ledger (r.run filing.toCall).value = r.ledger.file filing := by
  cases filing with
  | addHost name aliases target =>
    rw [Ledger.file, ← file_addHost sound]
    rfl
  | removeHost name =>
    rw [Ledger.file, ← file_removeHost sound]
    rfl
  | addAlias host name =>
    rw [Ledger.file, ← file_addAlias sound]
    rfl
  | removeAlias name =>
    rw [Ledger.file, ← file_removeAlias sound]
    rfl
  | deploy host hostTarget deployment =>
    rw [Ledger.file, ← file_deploy sound]
    rfl
  | undeploy place =>
    rw [Ledger.file, ← file_undeploy sound]
    rfl

/-- What the calls of a run answer. -/
def replies (r : Router H A W) : List (Call H A W) → List Reply
  | [] => []
  | call :: rest => (r.run call).value.1 :: (r.after call).replies rest

theorem Sound.refines (sound : r.Sound) (filings : List (Filing H A W)) :
    r.replies (filings.map Filing.toCall) = r.ledger.replies filings ∧
      (r.runAll (filings.map Filing.toCall)).ledger = r.ledger.fileAll filings := by
  induction filings generalizing r with
  | nil => exact ⟨rfl, rfl⟩
  | cons filing rest refines =>
    obtain ⟨answer, behind⟩ := Prod.mk.inj (file_run sound filing)
    have kept := (edits_after sound filing.toCall).sound sound
    obtain ⟨answers, last⟩ := refines kept
    constructor
    · rw [List.map_cons, replies, Ledger.replies, answers]
      exact congrArg₂ List.cons answer (congrArg (Ledger.replies · rest) behind)
    · exact last.trans (congrArg (Ledger.fileAll · rest) behind)

/-- **Registrations refine the finite maps**: every call of every run answers as
they do, and at the end the router contains what they contain. -/
theorem runAll_refines (filings : List (Filing H A W)) :
    (empty : Router H A W).replies (filings.map Filing.toCall) = Ledger.empty.replies filings ∧
      ((empty : Router H A W).runAll (filings.map Filing.toCall)).Agrees
        (Ledger.empty.fileAll filings) := by
  obtain ⟨answers, last⟩ := sound_empty.refines filings
  rw [ledger_empty] at answers last
  refine ⟨answers, last ▸ ?_⟩
  exact (sound_empty.runAll _).agrees

end VirtualHosting.Router
