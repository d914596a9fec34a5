/-
# Proofs.LastPlace — a target is found where it was deployed last, or not at all

One target may be deployed at several places, and the index tells of one of them: the
last. Withdrawing the version there drops the target, and no other place is put in its
stead. So whether a target is found does not depend on whether it is deployed but on
whether it is where a run put it last (`Router.lastPlace?`).

* `deployed_after_or`, `deployed_of_placed`: what is deployed after a call and was not
  before is what the call has put there;
* `Shift.arrived`, `Shift.told`, `Shift.kept`: the index follows what arrives, and goes
  on telling what stays;
* `SentTo.after`, `SentTo.runAll`: so one call, and any run, sends a target to its last
  place as long as it is deployed there;
* `resolveWithin_iff`: when a target is found.
-/
import VirtualHosting.Proofs.Repetition
import VirtualHosting.Proofs.TargetIndex

namespace VirtualHosting

set_option autoImplicit false

variable {H A W : Type}

/-! ## What a call deploys -/

/-- Where a call that is answered so has put a target, if it has. -/
def Call.placed? [DecidableEq A] (target : A) (reply : Reply) :
    Call H A W → Option Coordinates
  | .deploy host _ deployment =>
    if reply = .registration .added ∧ deployment.target = target
    then some ⟨normalizeHostName host, deployment.path, deployment.version⟩ else none
  | _ => none

theorem Call.placed?_deploy_eq_some_iff [DecidableEq A] {target : A} {reply : Reply} {host : String}
    {hostTarget : H} {deployment : Deployment A W} {place : Coordinates} :
    (Call.deploy host hostTarget deployment).placed? target reply = some place ↔
      reply = .registration .added ∧ deployment.target = target ∧
        ⟨normalizeHostName host, deployment.path, deployment.version⟩ = place := by
  simp only [placed?, Option.ite_none_right_eq_some, Option.some_inj, and_assoc]

namespace Ledger

variable {l : Ledger H A} {place : Coordinates} {target : A}

theorem deployed_of_removeHost {name : String}
    (there : (l.removeHost name).2.deployed place = some target) :
    l.deployed place = some target := by
  unfold removeHost at there
  split at there
  · exact (Option.ite_none_left_eq_some.1 there).2
  · exact there

theorem deployed_of_undeploy {other : Coordinates}
    (there : (l.undeploy other).2.deployed place = some target) :
    l.deployed place = some target := by
  unfold undeploy at there
  split at there
  · exact there
  · dsimp only at there
    rw [Function.update_apply] at there
    exact (Option.ite_none_left_eq_some.1 there).2

variable [DecidableEq A]

/-- What is deployed after a publication and was not before is what was published. -/
theorem deployed_publish_or {other : Coordinates} {newcomer : A}
    (there : (l.publish other newcomer).2.deployed place = some target) :
    l.deployed place = some target ∨
      (l.publish other newcomer).1 = .added ∧ newcomer = target ∧ other = place := by
  unfold publish at there ⊢
  cases free : l.deployed other with
  | some known =>
    rw [free] at there
    exact .inl there
  | none =>
    rw [free] at there
    dsimp only at there
    rw [Function.update_apply] at there
    split at there
    · rename_i here
      exact .inr ⟨rfl, Option.some.inj there, here.symm⟩
    · exact .inl there

theorem publish_added (added : (l.publish place target).1 = .added) :
    l.deployed place = none ∧ (l.publish place target).2.deployed place = some target := by
  unfold publish at added ⊢
  cases free : l.deployed place with
  | some known =>
    rw [free] at added
    dsimp only at added
    split at added <;> cases added
  | none => exact ⟨rfl, Function.update_self _ _ _⟩

theorem deployed_deploy_or {host : String} {hostTarget : H} {deployment : Deployment A W}
    (there : (l.deploy host hostTarget deployment).2.deployed place = some target) :
    l.deployed place = some target ∨
      (l.deploy host hostTarget deployment).1 = .ok .added ∧ deployment.target = target ∧
        ⟨host, deployment.path, deployment.version⟩ = place := by
  rcases l.deploy_cases host hostTarget deployment with ⟨refusal, refused⟩ | ⟨known, same, done⟩
  · rw [refused] at there
    exact .inl there
  · rw [done] at there ⊢
    rw [← same]
    exact (deployed_publish_or there).imp_right fun added =>
      ⟨congrArg Except.ok added.1, added.2⟩

theorem deploy_added {host : String} {hostTarget : H} {deployment : Deployment A W}
    (added : (l.deploy host hostTarget deployment).1 = .ok .added) :
    l.deployed ⟨host, deployment.path, deployment.version⟩ = none ∧
      (l.deploy host hostTarget deployment).2.deployed
        ⟨host, deployment.path, deployment.version⟩ = some deployment.target := by
  rcases l.deploy_cases host hostTarget deployment with ⟨refusal, refused⟩ | ⟨known, same, done⟩
  · rw [refused] at added
    cases added
  · rw [done] at added ⊢
    rw [← same]
    exact publish_added (Except.ok.inj added)

variable [DecidableEq H]

/-- What is deployed after a call and was not before is what the call has put there. -/
theorem deployed_file_or {filing : Filing H A W}
    (there : (l.file filing).2.deployed place = some target) :
    l.deployed place = some target ∨
      filing.toCall.placed? target (l.file filing).1 = some place := by
  cases filing with
  | addHost name aliases hostTarget =>
    exact .inl ((congrFun (l.deployed_addHost _ _ hostTarget) place).symm.trans there)
  | removeHost name => exact .inl (deployed_of_removeHost there)
  | addAlias host name => exact .inl ((congrFun (l.deployed_addAlias _ _) place).symm.trans there)
  | removeAlias name => exact .inl ((congrFun (l.deployed_removeAlias _) place).symm.trans there)
  | deploy host hostTarget deployment =>
    refine (deployed_deploy_or there).imp_right fun added => ?_
    exact Call.placed?_deploy_eq_some_iff.2
      ⟨Reply.ofRegistration_eq_registration_iff.2 added.1, added.2⟩
  | undeploy other => exact .inl (deployed_of_undeploy there)

/-- Where a call has put a target nothing was deployed, and the target is now. -/
theorem deployed_file_of_placed {filing : Filing H A W}
    (placed : filing.toCall.placed? target (l.file filing).1 = some place) :
    l.deployed place = none ∧ (l.file filing).2.deployed place = some target := by
  cases filing with
  | deploy host hostTarget deployment =>
    obtain ⟨added, rfl, rfl⟩ := Call.placed?_deploy_eq_some_iff.1 placed
    exact deploy_added (Reply.ofRegistration_eq_registration_iff.1 added)
  | addHost | removeHost | addAlias | removeAlias | undeploy => cases placed

end Ledger

namespace Router

variable {r next : Router H A W} {place : Coordinates} {target : A} {call : Call H A W}

/-- A revision deploys nothing and withdraws nothing. -/
theorem MayRevise.deployed_eq [DecidableEq W] (may : MayRevise r next) (sound : r.Sound) :
    next.ledger.deployed = r.ledger.deployed := by
  cases may with
  | refl => rfl
  | revise deployed revision =>
    exact congrArg Ledger.deployed
      (ledger_modifyVersion sound.wellFormed deployed revision.target_eq)

variable [DecidableEq H] [DecidableEq A] [DecidableEq W]

/-- A registration answers as the ledger does, and leaves what the ledger leaves. -/
theorem Sound.filed (sound : r.Sound) (filing : Filing H A W) :
    (r.run filing.toCall).value.1 = (r.ledger.file filing).1 ∧
      (r.after filing.toCall).ledger = (r.ledger.file filing).2 :=
  Prod.mk.inj (file_run sound filing)

/-- What is deployed after a call and was not before is what the call has put there. -/
theorem deployed_after_or (sound : r.Sound)
    (there : (r.after call).ledger.deployed place = some target) :
    r.ledger.deployed place = some target ∨
      call.placed? target (r.run call).value.1 = some place := by
  have registered (filing : Filing H A W)
      (there : (r.after filing.toCall).ledger.deployed place = some target) :
      r.ledger.deployed place = some target ∨
        filing.toCall.placed? target (r.run filing.toCall).value.1 = some place := by
    obtain ⟨answer, behind⟩ := sound.filed filing
    rw [behind] at there
    rw [answer]
    exact Ledger.deployed_file_or there
  have revised (may : MayRevise r (r.after call)) : r.ledger.deployed place = some target :=
    (congrFun (may.deployed_eq sound) place).symm.trans there
  cases call with
  | setDefaultHost name => exact .inl there
  | addHost name aliases hostTarget => exact registered (.addHost name aliases hostTarget) there
  | removeHost name => exact registered (.removeHost name) there
  | addAlias host name => exact registered (.addAlias host name) there
  | removeAlias name => exact registered (.removeAlias name) there
  | deploy host hostTarget deployment =>
    exact registered (.deploy host hostTarget deployment) there
  | undeploy other => exact registered (.undeploy other) there
  | pause other t => exact .inl (revised (mayRevise_pause r other t))
  | addHandler other pattern t flags =>
    exact .inl (revised (mayRevise_addHandler r other pattern t flags))
  | removeHandler other pattern => exact .inl (revised (mayRevise_removeHandler r other pattern))
  | addWelcomeFile other name => exact .inl (revised (mayRevise_addWelcomeFile r other name))
  | removeWelcomeFile other name =>
    exact .inl (revised (mayRevise_removeWelcomeFile r other name))
  | clearWelcomeFiles other => exact .inl (revised (mayRevise_clearWelcomeFiles r other))

/-- Where a call has put a target nothing was deployed, and the target is now. -/
theorem deployed_of_placed (sound : r.Sound)
    (placed : call.placed? target (r.run call).value.1 = some place) :
    r.ledger.deployed place = none ∧ (r.after call).ledger.deployed place = some target := by
  cases call with
  | deploy host hostTarget deployment =>
    obtain ⟨answer, behind⟩ := sound.filed (.deploy host hostTarget deployment)
    have ⟨free, there⟩ : r.ledger.deployed place = none ∧
        (r.ledger.file (.deploy host hostTarget deployment)).2.deployed place = some target :=
      Ledger.deployed_file_of_placed (answer ▸ placed)
    exact ⟨free, behind ▸ there⟩
  | _ => cases placed

/-! ## The index after a call -/

namespace Shift

omit [DecidableEq H] [DecidableEq W]

/-- Whatever arrives, the index tells of it. -/
theorem arrived (shift : Shift r next) (free : r.ledger.deployed place = none)
    (there : next.ledger.deployed place = some target) : next.index.place? target = some place := by
  cases shift with
  | same deployed =>
    rw [deployed, free] at there
    cases there
  | arrives newcomer other _ deployed index =>
    rw [deployed, Function.update_apply] at there
    split at there
    · rename_i here
      rw [index, TargetIndex.place?_record, if_pos (Option.some.inj there).symm, here]
    · cases free.symm.trans there
  | leaves gone other _ deployed =>
    rw [deployed, Function.update_apply, free, ite_self] at there
    cases there
  | closes host deployed =>
    rw [deployed] at there
    dsimp only at there
    rw [free, ite_self] at there
    cases there

/-- The index tells of nothing new but what arrives. -/
theorem told (shift : Shift r next) (found : next.index.place? target = some place) :
    r.index.place? target = some place ∨
      r.ledger.deployed place = none ∧ next.ledger.deployed place = some target := by
  cases shift with
  | same _ index => exact .inl (index ▸ found)
  | arrives newcomer other free deployed index =>
    rw [index, TargetIndex.place?_record] at found
    split at found
    · rename_i here
      obtain rfl := Option.some.inj found
      exact .inr ⟨free, by rw [deployed, Function.update_self, here]⟩
    · exact .inl found
  | leaves gone other _ _ index =>
    rw [index, TargetIndex.place?_forget_eq_some_iff] at found
    exact .inl found.1
  | closes host _ index =>
    rw [index, TargetIndex.place?_forgetHost_eq_some_iff] at found
    exact .inl found.1

/-- What the index tells it goes on telling while it is so, unless the target arrives
somewhere else. -/
theorem kept (shift : Shift r next) (found : r.index.place? target = some place)
    (there : next.ledger.deployed place = some target) :
    next.index.place? target = some place ∨
      ∃ other, r.ledger.deployed other = none ∧ next.ledger.deployed other = some target := by
  cases shift with
  | same _ index => exact .inl (index ▸ found)
  | arrives newcomer other free deployed index =>
    by_cases here : target = newcomer
    · exact .inr ⟨other, free, by rw [deployed, Function.update_self, here]⟩
    · rw [index, TargetIndex.place?_record, if_neg here]
      exact .inl found
  | leaves gone other _ deployed index =>
    have stays : place ≠ other := by
      rintro rfl
      rw [deployed, Function.update_self] at there
      cases there
    left
    rw [index, TargetIndex.place?_forget_eq_some_iff]
    exact ⟨found, fun left => stays left.2⟩
  | closes host deployed index =>
    rw [deployed] at there
    have stays := (Option.ite_none_left_eq_some.1 there).1
    left
    rw [index, TargetIndex.place?_forgetHost_eq_some_iff]
    exact ⟨found, stays⟩

end Shift

/-! ## The index after a run -/

/-- Where the calls of a run have put a target last. -/
def lastPlace? (r : Router H A W) (target : A) : List (Call H A W) → Option Coordinates
  | [] => none
  | call :: rest =>
    ((r.after call).lastPlace? target rest).or (call.placed? target (r.run call).value.1)

/-- The index sends a target to its last place as long as it is deployed there, and
nowhere else. -/
def SentTo (r : Router H A W) (target : A) (last : Option Coordinates) : Prop :=
  ∀ place, r.index.place? target = some place ↔
    last = some place ∧ r.ledger.deployed place = some target

/-- A call that puts the target somewhere gives it another last place, and any other call
leaves it the one it has. -/
theorem SentTo.after {last : Option Coordinates} (sent : r.SentTo target last) (sound : r.Sound)
    (indexed : r.Indexed) (call : Call H A W) :
    (r.after call).SentTo target ((call.placed? target (r.run call).value.1).or last) := by
  have shift := shift_after sound call
  intro place
  cases placed : call.placed? target (r.run call).value.1 with
  | some newest =>
    obtain ⟨free, there⟩ := deployed_of_placed sound placed
    rw [shift.arrived free there, Option.some_or]
    constructor
    · rintro ⟨⟩
      exact ⟨rfl, there⟩
    · exact And.left
  | none =>
    have no_arrival (other : Coordinates) : ¬ (r.ledger.deployed other = none ∧
        (r.after call).ledger.deployed other = some target) := by
      rintro ⟨free, there⟩
      rcases deployed_after_or sound there with before | put
      · cases free.symm.trans before
      · cases placed.symm.trans put
    rw [Option.none_or]
    constructor
    · intro found
      have before := (shift.told found).resolve_right (no_arrival place)
      exact ⟨((sent place).1 before).1, shift.indexed indexed target place found⟩
    · rintro ⟨rfl, there⟩
      have before : r.ledger.deployed place = some target :=
        (deployed_after_or sound there).resolve_right fun put => nomatch placed.symm.trans put
      have found := (sent place).2 ⟨rfl, before⟩
      exact (shift.kept found there).resolve_right fun ⟨other, arrival⟩ => no_arrival other arrival

theorem SentTo.runAll {last : Option Coordinates} (sent : r.SentTo target last) (sound : r.Sound)
    (indexed : r.Indexed) (calls : List (Call H A W)) :
    (r.runAll calls).SentTo target ((r.lastPlace? target calls).or last) := by
  induction calls generalizing r last with
  | nil => exact sent
  | cons call rest further =>
    have nextSound := (edits_after sound call).sound sound
    have nextIndexed := (shift_after sound call).indexed indexed
    rw [lastPlace?, Option.or_assoc]
    exact further (sent.after sound indexed call) nextSound nextIndexed

/-! ## Finding a target -/

/-- The calls have put the target somewhere last, and leave it there. -/
def StaysLast (calls : List (Call H A W)) (target : A) : Prop :=
  ∃ place version, (empty : Router H A W).lastPlace? target calls = some place ∧
    (place, version) ∈ (runAll empty calls).deployments ∧ version.target = target

/-- The index tells of a target exactly if the run leaves it at its last place. -/
theorem isSome_place?_iff (calls : List (Call H A W)) (target : A) :
    ((runAll (empty : Router H A W) calls).index.place? target).isSome ↔
      StaysLast calls target := by
  have reachable : (runAll (empty : Router H A W) calls).Reachable := ⟨calls, rfl⟩
  have fresh : (empty : Router H A W).SentTo target none := fun place => iff_of_false nofun nofun
  have sent := fresh.runAll sound_empty indexed_empty calls
  rw [Option.or_none] at sent
  rw [Option.isSome_iff_exists]
  refine exists_congr fun place => ?_
  rw [sent place, deployed_ledger_eq_some_iff reachable.sound.wellFormed, exists_and_left]

/-- **A target is found exactly if it is deployed where the run put it last.** If it is
not, nothing is found, wherever else it is deployed. -/
theorem resolveWithin_iff (calls : List (Call H A W)) (target : A) :
    let r := runAll (empty : Router H A W) calls
    ((∀ uri, (r.resolveWithin target uri).value.application = some target) ↔
      StaysLast calls target) ∧
    ((∀ uri, (r.resolveWithin target uri).value = .unresolved) ↔ ¬ StaysLast calls target) := by
  intro r
  have reachable : r.Reachable := ⟨calls, rfl⟩
  rw [← isSome_place?_iff]
  cases found : r.index.place? target with
  | none =>
    have nowhere := resolveWithin_of_place?_eq_none found
    refine ⟨iff_of_false (fun everywhere => ?_) nofun, iff_of_true nowhere nofun⟩
    cases (nowhere "") ▸ everywhere ""
  | some place =>
    have everywhere := reachable.indexed.application_resolveWithin reachable.sound.wellFormed found
    refine ⟨iff_of_true everywhere rfl, iff_of_false (fun nowhere => ?_) (not_not.2 rfl)⟩
    cases (nowhere "") ▸ everywhere ""

/-- A target deployed at two places and withdrawn from the second. -/
def sharedTarget : Router Nat Nat Nat :=
  runAll empty [.deploy "h" 0 { path := "/a", target := 1 },
    .deploy "h" 0 { path := "/b", target := 1 }, .undeploy ⟨"h", "/b", ""⟩]

/-- It is not found where it still is. -/
theorem shared_target_lost :
    sharedTarget.Reachable ∧
      (∃ place version, (place, version) ∈ sharedTarget.deployments ∧ version.target = 1) ∧
      ∀ uri, (sharedTarget.resolveWithin 1 uri).value = .unresolved := by
  have deployed : sharedTarget.deployments.any (fun found => found.2.target == 1) = true := by
    decide +kernel
  obtain ⟨⟨place, version⟩, listed, same⟩ := List.any_eq_true.1 deployed
  have missing : sharedTarget.index.place? 1 = none := by decide +kernel
  exact ⟨⟨_, rfl⟩, ⟨place, version, listed, beq_iff_eq.1 same⟩,
    resolveWithin_of_place?_eq_none missing⟩

end Router

end VirtualHosting
