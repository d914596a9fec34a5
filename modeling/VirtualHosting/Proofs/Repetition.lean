/-
# Proofs.Repetition — registering something that is registered

Whoever registers a host with its aliases, an alias or a version may not know
whether it was done before. On the ledger it is plain why that does no harm: after
the first time the name stands for what it was to stand for, or the place holds its
target, and whoever asks again is told so.

* `names_addHost`, `addAlias_again`, `deploy_again`: what a registration leaves to be
  found;
* `addHost_known`, `addAlias_taken`, `deploy_taken`: what comes of one that finds it;
* `Ledger.file_again`: what was registered is registered already.
-/
import VirtualHosting.Proofs.Ledger

namespace VirtualHosting

set_option autoImplicit false

variable {H A W : Type}

/-! ## Answers -/

namespace Reply

/-- Whether a call says that what it names is registered. -/
def registered : Reply → Bool
  | registration outcome => outcome.isRegistered
  | _ => false

theorem ofRegistration_eq_registration_iff {answer : Except Refusal Registration}
    {outcome : Registration} :
    ofRegistration answer = registration outcome ↔ answer = .ok outcome := by
  cases answer <;> simp [ofRegistration]

theorem registered_ofRegistration_iff {answer : Except Refusal Registration} :
    (ofRegistration answer).registered = true ↔
      ∃ outcome, answer = .ok outcome ∧ outcome ≠ .rejected := by
  cases answer with
  | error refusal => simp [ofRegistration, registered]
  | ok outcome => simp [ofRegistration, registered, Registration.isRegistered_iff]

theorem registered_ofFlag (answer : Except Refusal Bool) : (ofFlag answer).registered = false := by
  cases answer <;> rfl

theorem registered_ofDone (answer : Except Refusal Unit) : (ofDone answer).registered = false := by
  cases answer <;> rfl

end Reply

namespace Ledger

variable {l : Ledger H A} {name host : String} {standing : Standing H}

/-! ## Hosts and aliases -/

theorem names_enterFree (there : l.names name = some standing) (host other : String) :
    (l.enterFree host other).names name = some standing := by
  unfold enterFree
  cases free : l.names other with
  | some _ => exact there
  | none =>
    have away : name ≠ other := by
      rintro rfl
      cases there.symm.trans free
    exact (Function.update_of_ne away _ _).trans there

/-- No name is lost to aliases. -/
theorem names_foldl_enterFree (there : l.names name = some standing) (host : String)
    (names : List String) : (names.foldl (enterFree host) l).names name = some standing := by
  induction names generalizing l with
  | nil => exact there
  | cons other rest kept => exact kept (names_enterFree there host other)

/-- An alias is taken afterwards, by the host or by whoever had it. -/
theorem exists_names_foldl_enterFree {names : List String} (listed : name ∈ names)
    (host : String) (l : Ledger H A) :
    ∃ standing, (names.foldl (enterFree host) l).names name = some standing := by
  induction names generalizing l with
  | nil => cases listed
  | cons other rest taken =>
    rcases List.mem_cons.1 listed with rfl | later
    · have entered : ∃ standing, (l.enterFree host name).names name = some standing := by
        unfold enterFree
        cases there : l.names name with
        | none => exact ⟨_, Function.update_self ..⟩
        | some standing => exact ⟨standing, there⟩
      obtain ⟨standing, entered⟩ := entered
      exact ⟨standing, names_foldl_enterFree entered host rest⟩
    · exact taken later _

/-- A host that is there for the target gains aliases at most. -/
theorem addHost_known [DecidableEq H] {target : H} (known : l.names name = some (.host target))
    (aliases : List String) :
    l.addHost name aliases target = (.unchanged, aliases.foldl (enterFree name) l) := by
  unfold addHost
  rw [known]
  exact if_pos rfl

/-- Registering a host leaves it there, with all its aliases taken. -/
theorem names_addHost [DecidableEq H] {aliases : List String} {target : H}
    (registered : (l.addHost name aliases target).1 ≠ .rejected) :
    (l.addHost name aliases target).2.names name = some (.host target) ∧
      ∀ other ∈ aliases, (l.addHost name aliases target).2.names other ≠ none := by
  have taken (l : Ledger H A) (other : String) (listed : other ∈ aliases) :
      (aliases.foldl (enterFree name) l).names other ≠ none := by
    obtain ⟨standing, there⟩ := exists_names_foldl_enterFree listed name l
    simp [there]
  cases there : l.names name with
  | none =>
    have entered : (l.enter name (.host target)).names name = some (.host target) :=
      Function.update_self ..
    have answer : l.addHost name aliases target =
        (.added, aliases.foldl (enterFree name) (l.enter name (.host target))) := by
      unfold addHost
      rw [there]
    rw [answer]
    exact ⟨names_foldl_enterFree entered name aliases, taken _⟩
  | some standing =>
    unfold addHost at registered
    rw [there] at registered
    cases standing with
    | aliasOf owner => exact absurd rfl registered
    | host known =>
      by_cases same : known = target
      · subst same
        rw [addHost_known there]
        exact ⟨names_foldl_enterFree there name aliases, taken l⟩
      · exact absurd (congrArg Prod.fst (if_neg same)) registered

theorem addAlias_taken {taken : Standing H} (known : l.names host = some standing)
    (there : l.names name = some taken) (same : taken.realName name = standing.realName host) :
    l.addAlias host name = (.ok .unchanged, l) := by
  unfold addAlias
  rw [known, there]
  exact if_pos same

theorem addAlias_again {outcome : Registration}
    (answer : (l.addAlias host name).1 = .ok outcome) (registered : outcome ≠ .rejected) :
    ((l.addAlias host name).2.addAlias host name).1 = .ok .unchanged := by
  unfold addAlias at answer
  cases known : l.names host with
  | none =>
    rw [known] at answer
    cases answer
  | some standing =>
    rw [known] at answer
    cases there : l.names name with
    | none =>
      have away : host ≠ name := by
        rintro rfl
        cases known.symm.trans there
      have entered : l.addAlias host name =
          (.ok .added, l.enter name (.aliasOf (standing.realName host))) := by
        unfold addAlias
        rw [known, there]
      have kept : (l.enter name (.aliasOf (standing.realName host))).names host = some standing :=
        (Function.update_of_ne away _ _).trans known
      rw [entered, addAlias_taken kept (Function.update_self ..) rfl]
    | some taken =>
      simp only [there] at answer
      by_cases same : taken.realName name = standing.realName host
      · rw [addAlias_taken known there same, addAlias_taken known there same]
      · rw [if_neg same] at answer
        cases answer
        exact absurd rfl registered

/-! ## Deployments -/

theorem firstFault_eq_none_iff {mappings : List (HandlerMapping W)} :
    firstFault mappings = none ↔
      ∀ mapping ∈ mappings, ∃ p, Pattern.parse mapping.pattern = .ok p := by
  rw [firstFault, List.findSome?_eq_none_iff]
  refine forall₂_congr fun mapping _ => ?_
  cases Pattern.parse mapping.pattern with
  | error fault => simp
  | ok p => simp

/-- Where a place is taken, its target decides what a deployment comes to. -/
theorem deploy_taken [DecidableEq A] {target : H} {deployment : Deployment A W} {existing : A}
    (known : l.names host = some (.host target))
    (there : l.deployed ⟨host, deployment.path, deployment.version⟩ = some existing)
    (readable : firstFault deployment.handlers = none) (hostTarget : H) :
    l.deploy host hostTarget deployment =
      (.ok (if existing = deployment.target then .unchanged else .rejected), l) := by
  unfold deploy
  simp only [readable, known, publish, there]
  rfl

theorem names_publish [DecidableEq A] (l : Ledger H A) (place : Coordinates) (target : A) :
    (l.publish place target).2.names = l.names := by
  unfold publish
  split <;> rfl

theorem deployed_publish [DecidableEq A] {place : Coordinates} {target : A}
    (registered : (l.publish place target).1 ≠ .rejected) :
    (l.publish place target).2.deployed place = some target := by
  unfold publish at registered ⊢
  cases there : l.deployed place with
  | none => exact Function.update_self ..
  | some known =>
    simp only [there] at registered ⊢
    by_cases same : known = target
    · rw [same]
    · rw [if_neg same] at registered
      exact absurd rfl registered

/-- What was published on a host is there when it is deployed again. -/
theorem deploy_publish [DecidableEq A] {target hostTarget : H} {deployment : Deployment A W}
    (known : l.names host = some (.host target)) (readable : firstFault deployment.handlers = none)
    (registered : (l.publish ⟨host, deployment.path, deployment.version⟩ deployment.target).1 ≠
      .rejected) :
    ((l.publish ⟨host, deployment.path, deployment.version⟩ deployment.target).2.deploy host
      hostTarget deployment).1 = .ok .unchanged := by
  have known' : (l.publish ⟨host, deployment.path, deployment.version⟩ deployment.target).2.names
      host = some (.host target) := by
    rw [names_publish]
    exact known
  rw [deploy_taken known' (deployed_publish registered) readable, if_pos rfl]

theorem deploy_again [DecidableEq A] {hostTarget : H} {deployment : Deployment A W}
    {outcome : Registration} (answer : (l.deploy host hostTarget deployment).1 = .ok outcome)
    (registered : outcome ≠ .rejected) :
    ((l.deploy host hostTarget deployment).2.deploy host hostTarget deployment).1 =
      .ok .unchanged := by
  cases readable : firstFault deployment.handlers with
  | some refusal =>
    simp only [deploy, readable] at answer
    cases answer
  | none =>
    cases known : l.names host with
    | none =>
      have entered : (l.enter host (.host hostTarget)).names host = some (.host hostTarget) :=
        Function.update_self ..
      have step : l.deploy host hostTarget deployment =
          ((l.enter host (.host hostTarget)).publish ⟨host, deployment.path, deployment.version⟩
            deployment.target).map .ok id := by
        simp only [deploy, readable, known]
      rw [step] at answer ⊢
      cases answer
      exact deploy_publish entered readable registered
    | some standing =>
      cases standing with
      | aliasOf owner =>
        simp only [deploy, readable, known] at answer
        cases answer
      | host target =>
        have step : l.deploy host hostTarget deployment =
            (l.publish ⟨host, deployment.path, deployment.version⟩ deployment.target).map
              .ok id := by
          simp only [deploy, readable, known]
        rw [step] at answer ⊢
        cases answer
        exact deploy_publish known readable registered

/-! ## All registrations -/

variable [DecidableEq H] [DecidableEq A]

/-- **What is registered is registered already** when it is registered again. -/
theorem file_again (filing : Filing H A W) (registered : (l.file filing).1.registered = true) :
    ((l.file filing).2.file filing).1 = .registration .unchanged := by
  cases filing with
  | addHost name aliases target =>
    have kept := names_addHost ((Registration.isRegistered_iff _).1 registered)
    exact congrArg (Reply.registration ·.1) (addHost_known kept.1 _)
  | addAlias host name =>
    obtain ⟨outcome, answer, done⟩ := Reply.registered_ofRegistration_iff.1 registered
    exact congrArg Reply.ofRegistration (addAlias_again answer done)
  | deploy host hostTarget deployment =>
    obtain ⟨outcome, answer, done⟩ := Reply.registered_ofRegistration_iff.1 registered
    exact congrArg Reply.ofRegistration (deploy_again answer done)
  | removeHost name => cases registered
  | removeAlias name => cases registered
  | undeploy place => cases registered

end Ledger

end VirtualHosting
