/-
# Proofs.Refusals — each refused registration is reported once

A call that registers several things at once may get some of them refused and still answer
that it added something: a host is added with those of its aliases that are free, and a
version with those of its handlers whose pattern nobody listed before. What was refused is
then told by the log alone. So an operator who goes through the errors has to find there
every registration that was refused for a conflict, once, and nothing else.

* `comesLate_iff`: which handlers of a deployment are passed over;
* `errorEvents_gather_readable`: they are reported, as far as the patterns can be read;
* `realName?_addHost`: the aliases that are refused are those that stand for another host;
* `errors_run`: as many errors are reported of a call as it refused registrations;
* `traces_resolve`, `traces_resolveWithin`: a lookup reports passing detail only;
* `refusals_logged`: both, on any reachable router.
-/
import VirtualHosting.Proofs.Copies
import VirtualHosting.Proofs.Disputes
import VirtualHosting.Proofs.MountBoundary
import VirtualHosting.Proofs.Reuse

namespace VirtualHosting

set_option autoImplicit false

variable {H A W : Type}

theorem errors_eq_length (log : List Event) : errors log = (errorEvents log).length :=
  List.countP_eq_length_filter

/-- One for a registration that was rejected. -/
def Reply.rejections : Reply → Nat
  | registration .rejected => 1
  | _ => 0

/-! ## Handlers that come too late -/

namespace HandlerMapping

variable {mapping : HandlerMapping W} {mappings : List (HandlerMapping W)}

/-- The pattern is well formed. -/
def isReadable (mapping : HandlerMapping W) : Bool :=
  match Pattern.parse mapping.pattern with
  | .ok _ => true
  | .error _ => false

theorem isReadable_iff :
    mapping.isReadable = true ↔ ∃ p, Pattern.parse mapping.pattern = .ok p := by
  unfold isReadable
  cases Pattern.parse mapping.pattern <;> simp

/-- The handlers before the first malformed pattern. -/
def readable (mappings : List (HandlerMapping W)) : List (HandlerMapping W) :=
  mappings.takeWhile isReadable

/-- Whoever lists a pattern first, lists it among those that are read. -/
theorem find?_readable (read : mapping ∈ readable mappings) :
    (readable mappings).find? (·.pattern == mapping.pattern) =
      mappings.find? (·.pattern == mapping.pattern) := by
  have found : ((readable mappings).find? (·.pattern == mapping.pattern)).isSome := by
    rw [List.find?_isSome]
    exact ⟨mapping, read, beq_self_eq_true _⟩
  conv_rhs => rw [← List.takeWhile_append_dropWhile (p := isReadable) (l := mappings)]
  rw [List.find?_append]
  exact (Option.or_of_isSome found).symm

variable [DecidableEq W]

/-- The first handler listed for the pattern has another target. -/
def comesLate (mapping : HandlerMapping W) (mappings : List (HandlerMapping W)) : Bool :=
  (mappings.find? (·.pattern == mapping.pattern)).any (·.target != mapping.target)

/-- The pattern was mapped before, and to another target. -/
theorem comesLate_iff {i : Nat} (listed : mappings[i]? = some mapping) :
    mapping.comesLate mappings = true ↔
      ∃ j first, j < i ∧ mappings[j]? = some first ∧ first.pattern = mapping.pattern ∧
        first.target ≠ mapping.target ∧
        ∀ k < j, ∀ other, mappings[k]? = some other → other.pattern ≠ mapping.pattern := by
  obtain ⟨inside, there⟩ := List.getElem?_eq_some_iff.1 listed
  simp only [comesLate, Option.any_eq_true, List.find?_eq_some_iff_getElem, bne_iff_ne, beq_iff_eq]
  constructor
  · rintro ⟨first, ⟨same, j, inside', rfl, earliest⟩, other⟩
    refine ⟨j, _, ?_, List.getElem?_eq_getElem inside', same, other, ?_⟩
    · by_contra late
      rcases Nat.lt_or_eq_of_le (Nat.le_of_not_lt late) with before | rfl
      · simpa [there] using earliest i before
      · exact other (congrArg target there)
    · intro k before other' there'
      obtain ⟨_, rfl⟩ := List.getElem?_eq_some_iff.1 there'
      simpa using earliest k before
  · rintro ⟨j, first, _, there', same, other, earliest⟩
    obtain ⟨inside', rfl⟩ := List.getElem?_eq_some_iff.1 there'
    refine ⟨_, ⟨same, j, inside', rfl, fun k before => ?_⟩, other⟩
    simpa using earliest k before _ (List.getElem?_eq_getElem (before.trans inside'))

end HandlerMapping

namespace Router

open HandlerMapping

section Gathering

variable [DecidableEq W] {application : String} {mappings : List (HandlerMapping W)}

/-- Nothing is looked at behind a malformed pattern. -/
theorem errorEvents_gather_takeWhile (application : String) (set : HandlerSet W)
    (mappings : List (HandlerMapping W)) :
    errorEvents (gather application set mappings).log =
      errorEvents (gather application set (readable mappings)).log := by
  induction mappings generalizing set with
  | nil => rfl
  | cons mapping rest same =>
    cases read : Pattern.parse mapping.pattern with
    | error fault =>
      have stops : readable (mapping :: rest) = [] := by simp [readable, isReadable, read]
      have unread := value_readPattern mapping.pattern
      rw [read] at unread
      rw [stops, gather_nil, gather, Logged.log_bind, errorEvents_append,
        errorEvents_readPattern, unread]
      rfl
    | ok p =>
      have goesOn : readable (mapping :: rest) = mapping :: readable rest := by
        simp [readable, isReadable, read]
      rw [goesOn, errorEvents_gather_put read, errorEvents_gather_put read, same]

theorem exists_gather_readable (application : String) (mappings : List (HandlerMapping W)) :
    ∃ handlers, (gather application .empty (readable mappings)).value = .ok handlers := by
  have answer := value_gather_eq application (readable mappings) .empty
  have faultless : Ledger.firstFault (readable mappings) = none := by
    rw [Ledger.firstFault_eq_none_iff]
    intro mapping there
    exact isReadable_iff.1 (List.mem_takeWhile_imp there)
  rwa [faultless] at answer

/-- **The handlers of a deployment that come too late are reported**, up to the first malformed
pattern, whatever becomes of the deployment. -/
theorem errorEvents_gather_readable (application : String) (mappings : List (HandlerMapping W)) :
    errorEvents (gather application .empty mappings).log =
      ((readable mappings).filter (·.comesLate mappings)).map fun mapping =>
        .patternDropped mapping.pattern application := by
  obtain ⟨handlers, gathered⟩ := exists_gather_readable application mappings
  rw [errorEvents_gather_takeWhile, errorEvents_gather HandlerSet.wellFormed_empty gathered]
  refine congrArg (List.map _) (List.filter_congr fun mapping there => ?_)
  obtain ⟨p, read⟩ := isReadable_iff.1 (List.mem_takeWhile_imp there)
  rw [mapping.overruled_eq read, find?_gather_empty gathered read, find?_readable there, comesLate,
    Option.any_map]

theorem errors_gather (application : String) (mappings : List (HandlerMapping W)) :
    errors (gather application .empty mappings).log =
      (readable mappings).countP (·.comesLate mappings) := by
  rw [errors_eq_length, errorEvents_gather_readable, List.length_map,
    List.countP_eq_length_filter]

theorem errors_addHandler (r : Router H A W) (place : Coordinates) (pattern : String) (target : W)
    (flags : HandlerFlags) :
    errors (r.addHandler place pattern target flags).log =
      (Reply.ofRegistration (r.addHandler place pattern target flags).value.1).rejections := by
  rw [value_addHandler, addHandler, Logged.log_bind, errors_append, errors_eq_length,
    errorEvents_readPattern, value_readPattern]
  cases Pattern.parse pattern with
  | error fault => rfl
  | ok p =>
    dsimp only
    cases r.find place with
    | error refusal => rfl
    | ok version =>
      dsimp only
      cases version.handlers.add p target flags <;> rfl

end Gathering

theorem errors_deployOn [DecidableEq A] (r : Router H A W) (host : String) (mounts : Mounts A W)
    (deployment : Deployment A W) (handlers : HandlerSet W) :
    errors (r.deployOn host mounts deployment handlers).log =
      (Reply.registration (r.deployOn host mounts deployment handlers).value.1).rejections := by
  rw [log_deployOn]
  cases (r.deployOn host mounts deployment handlers).value.1 <;> rfl

/-! ## Calls that refuse nothing -/

theorem errors_removeHost (r : Router H A W) (name : String) :
    errors (r.removeHost name).log = 0 := by
  unfold removeHost
  dsimp only
  split <;> rfl

theorem errors_removeAlias (r : Router H A W) (name : String) :
    errors (r.removeAlias name).log = 0 := by
  unfold removeAlias
  dsimp only
  split
  · split <;> rfl
  · rfl

theorem errors_undeploy [DecidableEq A] (r : Router H A W) (place : Coordinates) :
    errors (r.undeploy place).log = 0 := by
  unfold undeploy
  dsimp only
  repeat' split
  all_goals rfl

theorem errors_pause [DecidableEq A] (r : Router H A W) (place : Coordinates) (target : A) :
    errors (r.pause place target).log = 0 := by
  unfold pause
  split
  · rfl
  · split <;> rfl

theorem errors_removeHandler (r : Router H A W) (place : Coordinates) (pattern : String) :
    errors (r.removeHandler place pattern).log = 0 := by
  rw [removeHandler, Logged.log_bind, errors_append, errors_eq_length, errorEvents_readPattern,
    value_readPattern]
  cases Pattern.parse pattern with
  | error fault => rfl
  | ok p =>
    dsimp only
    split
    · rfl
    · split <;> rfl

/-! ## Lookups -/

/-- Nothing is told but passing detail. -/
def Traces (log : List Event) : Prop :=
  ∀ e ∈ log, e.level = .trace

theorem Traces.nil : Traces [] :=
  fun _ told => nomatch told

theorem Traces.tell {e : Event} (detail : e.level = .trace) {rest : List Event}
    (others : Traces rest) : Traces (e :: rest) :=
  List.forall_mem_cons.2 ⟨detail, others⟩

theorem traces_select (v : Version A W) (uri : String) : Traces (v.select uri).log := by
  cases below : Text.strip? v.path uri with
  | none =>
    rw [v.select_of_elsewhere uri below]
    exact .nil
  | some rel =>
    rw [(Text.strip?_eq_some_iff _ _ _).1 below]
    intro e told
    obtain ⟨path, rfl, _⟩ := v.asksOf_select rel e told
    rfl

theorem traces_resolveOn (mounts : Mounts A W) (host : H) (hostName uri : String)
    (requested : Option String) : Traces (resolveOn mounts host hostName uri requested).log := by
  unfold resolveOn
  split
  · exact .tell rfl .nil
  · dsimp only
    split
    · exact .nil
    · rename_i label version _
      split
      · exact .tell rfl .nil
      · rw [Logged.log_bind, Logged.log_pure, List.append_nil]
        exact traces_select version uri

theorem traces_resolve (r : Router H A W) (host uri : String) (requested : Option String) :
    Traces (r.resolve host uri requested).log := by
  unfold resolve
  split
  · exact .nil
  · split
    · exact .tell rfl .nil
    · exact traces_resolveOn _ _ _ uri requested

theorem traces_resolveWithin (r : Router H A W) (target : A) (uri : String) :
    Traces (r.resolveWithin target uri).log := by
  unfold resolveWithin
  split
  · exact .nil
  · rename_i version _
    dsimp only
    rw [Logged.log_bind, Logged.log_pure, List.append_nil]
    exact traces_select version uri

/-! ## Aliases that are taken -/

variable {r : Router H A W} {host name : String} {owner : Host H A W}

/-- The name stands for something other than the host. -/
def taken (r : Router H A W) (host name : String) : Bool :=
  (r.realName? name).any (· != host)

theorem realName?_insertAlias (ordered : r.entries.Ordered) (host name key : String) :
    (r.insertAlias host name).value.2.realName? key =
      (r.realName? key).or (if key = name then some host else none) := by
  rw [realName?, ledger_insertAlias ordered, Ledger.enterFree, realName?]
  cases free : r.ledger.names name with
  | none =>
    dsimp only
    rw [Ledger.names_enter]
    by_cases here : key = name
    · rw [if_pos here, if_pos here, here, free]
      rfl
    · rw [if_neg here, if_neg here, Option.or_none]
  | some standing =>
    dsimp only
    by_cases here : key = name
    · rw [here, free]
      rfl
    · rw [if_neg here, Option.or_none]

/-- A name that comes to stand for the host was free or stood for it before. -/
theorem taken_congr {next : Router H A W} {key : String} {enters : Prop} [Decidable enters]
    (leads : next.realName? key = (r.realName? key).or (if enters then some host else none)) :
    next.taken host key = r.taken host key := by
  rw [taken, taken, leads]
  cases r.realName? key with
  | some other => rfl
  | none =>
    rw [Option.none_or]
    split <;> simp

/-- An alias that is refused is reported. -/
theorem errors_insertAlias (r : Router H A W) (host name : String) :
    errors (r.insertAlias host name).log =
      (Reply.registration (r.insertAlias host name).value.1).rejections := by
  rw [value_insertAlias]
  unfold insertAlias
  cases r.entries.insert? name (.aliasOf host) with
  | some entries => rfl
  | none =>
    dsimp only
    split <;> rfl

theorem errors_insertAlias_taken (ordered : r.entries.Ordered) (host name : String) :
    errors (r.insertAlias host name).log = if r.taken host name then 1 else 0 := by
  rw [errors_insertAlias, outcome_insertAlias ordered, taken, realName?]
  cases r.ledger.names name with
  | none => rfl
  | some standing =>
    dsimp only [Option.map_some, Option.any_some]
    by_cases own : standing.realName name = host
    · simp [own, Reply.rejections]
    · simp [own, Reply.rejections]

theorem errors_addAlias (r : Router H A W) (host name : String) :
    errors (r.addAlias host name).log =
      (Reply.ofRegistration (r.addAlias host name).value.1).rejections := by
  rw [value_addAlias]
  unfold addAlias
  dsimp only
  cases r.entries.find? (normalizeHostName host) with
  | none => rfl
  | some entry =>
    dsimp only
    rw [Logged.log_bind, errors_append, errors_insertAlias]
    rfl

variable [DecidableEq A] [DecidableEq W]

/-- Of a list of aliases those are reported that are taken, each as often as it is asked for. -/
theorem errors_addAliases (sound : r.Sound) (owned : r.host? host = some owner)
    (names : List String) :
    errors (r.addAliases host names).log =
      names.countP fun name => r.taken host (normalizeHostName name) := by
  induction names generalizing r owner with
  | nil => rfl
  | cons name rest counted =>
    have ordered := sound.wellFormed.ordered
    obtain ⟨owner', owned'⟩ := host?_insertAlias sound owned (normalizeHostName name)
    have grown := (mayEdit_insertAlias owned name).edits.sound sound
    rw [addAliases, Logged.log_bind, errors_append, errors_insertAlias_taken ordered,
      counted grown owned', List.countP_cons, Nat.add_comm]
    simp only [taken_congr (realName?_insertAlias ordered host (normalizeHostName name) _)]

theorem realName?_addAliases (sound : r.Sound) (owned : r.host? host = some owner)
    (names : List String) (key : String) :
    (r.addAliases host names).value.realName? key =
      (r.realName? key).or (if key ∈ names.map normalizeHostName then some host else none) := by
  induction names generalizing r owner with
  | nil => exact Option.or_none.symm
  | cons name rest same =>
    obtain ⟨owner', owned'⟩ := host?_insertAlias sound owned (normalizeHostName name)
    have grown := (mayEdit_insertAlias owned name).edits.sound sound
    rw [value_addAliases_cons, same grown owned', realName?_insertAlias sound.wellFormed.ordered,
      Option.or_assoc, List.map_cons]
    by_cases here : key = normalizeHostName name <;> simp [here]

section Hosts

variable [DecidableEq H]

/-- What adding a host comes to, unless it is rejected: its aliases are added where the host is,
whether it was there or has just been entered. -/
theorem addHost_cases (sound : r.Sound) (name : String) (aliases : List String) (target : H)
    (accepted : (r.addHost name aliases target).value.1 ≠ .rejected) :
    ∃ (next : Router H A W) (owner : Host H A W), next.Sound ∧
      next.host? (normalizeHostName name) = some owner ∧
      (∀ key, next.realName? key = (r.realName? key).or
        (if key = normalizeHostName name then some (normalizeHostName name) else none)) ∧
      (r.addHost name aliases target).value.2 =
        (next.addAliases (normalizeHostName name) aliases).value ∧
      errors (r.addHost name aliases target).log =
        errors (next.addAliases (normalizeHostName name) aliases).log := by
  have ordered := sound.wellFormed.ordered
  cases there : r.entries.find? (normalizeHostName name) with
  | none =>
    obtain ⟨entries, inserted, answer⟩ := addHost_free ordered there aliases target
    have entered : Edit r { r with entries } := .enterHost inserted
    refine ⟨{ r with entries }, _, entered.sound sound, host?_of_insert? ordered inserted,
      fun key => ?_, congrArg Prod.snd answer, ?_⟩
    · rw [realName?_enterHost ordered inserted]
      split
      · rename_i here
        rw [here, realName?, names_ledger_eq_none_iff.2 there]
        rfl
      · exact Option.or_none.symm
    rw [addHost, there]
    dsimp only
    rw [inserted, Logged.log_bind, errors_append, Logged.log_bind, Logged.log_pure,
      List.append_nil]
    exact Nat.zero_add _
  | some entry =>
    cases entry with
    | aliasOf other =>
      rw [value_addHost, there] at accepted
      exact absurd rfl accepted
    | real owner =>
      have same : owner.target = target := by
        by_contra other
        rw [value_addHost, there] at accepted
        exact accepted (congrArg Prod.fst (if_neg other))
      refine ⟨r, owner, sound, host?_eq_some_iff.2 there, fun key => ?_, ?_, ?_⟩
      · split
        · rename_i here
          rw [here, realName?_eq_some_iff.2 ⟨_, there, rfl⟩]
          rfl
        · exact Option.or_none.symm
      · rw [value_addHost, there]
        exact congrArg Prod.snd (if_pos same)
      · rw [addHost, there]
        dsimp only
        rw [if_pos same, Logged.log_bind, errors_append, Logged.log_bind, Logged.log_pure,
          List.append_nil]
        exact Nat.zero_add _

theorem errors_addHost (sound : r.Sound) (name : String) (aliases : List String) (target : H) :
    errors (r.addHost name aliases target).log =
      if (r.addHost name aliases target).value.1 = .rejected then 1
      else aliases.countP fun other =>
        r.taken (normalizeHostName name) (normalizeHostName other) := by
  split
  · rename_i rejected
    rw [value_addHost] at rejected
    rw [addHost]
    cases there : r.entries.find? (normalizeHostName name) with
    | none =>
      rw [there] at rejected
      cases rejected
    | some entry =>
      cases entry with
      | aliasOf owner => rfl
      | real owner =>
        rw [there] at rejected
        dsimp only at rejected ⊢
        by_cases same : owner.target = target
        · rw [if_pos same] at rejected
          cases rejected
        · rw [if_neg same]
          rfl
  · rename_i accepted
    obtain ⟨next, owner, grown, owned, leads, _, reported⟩ :=
      addHost_cases sound name aliases target accepted
    rw [reported, errors_addAliases grown owned]
    refine List.countP_congr fun other _ => ?_
    rw [taken_congr (leads _)]

/-- Unless it is rejected, all names of a host stand for it afterwards, but for those that stood
for another before. -/
theorem realName?_addHost (sound : r.Sound) (name : String) (aliases : List String) (target : H)
    (accepted : (r.addHost name aliases target).value.1 ≠ .rejected) (key : String) :
    (r.addHost name aliases target).value.2.realName? key =
      (r.realName? key).or (if key ∈ (name :: aliases).map normalizeHostName then
        some (normalizeHostName name) else none) := by
  obtain ⟨next, owner, grown, owned, leads, after, _⟩ :=
    addHost_cases sound name aliases target accepted
  rw [after, realName?_addAliases grown owned, leads, List.map_cons, Option.or_assoc]
  by_cases here : key = normalizeHostName name <;> simp [here]

/-! ## Calls -/

/-- What a call refused because of a conflict: the registration it answers for, if that was
rejected, and those of the others that are made along with it. -/
def refusals (r : Router H A W) (reply : Reply) : Call H A W → Nat
  | .addHost name aliases _ =>
    if reply = .registration .rejected then 1
    else aliases.countP fun other => r.taken (normalizeHostName name) (normalizeHostName other)
  | .addAlias .. | .addHandler .. => reply.rejections
  | .deploy _ _ deployment =>
    (readable deployment.handlers).countP (·.comesLate deployment.handlers) + reply.rejections
  | _ => 0

theorem errors_deploy (sound : r.Sound) (host : String) (target : H)
    (deployment : Deployment A W) :
    errors (r.deploy host target deployment).log =
      (readable deployment.handlers).countP (·.comesLate deployment.handlers) +
        (Reply.ofRegistration (r.deploy host target deployment).value.1).rejections := by
  rw [value_deploy, deploy, Logged.log_bind, errors_append, errors_gather]
  congr 1
  cases (gather deployment.path .empty deployment.handlers).value with
  | error refusal => rfl
  | ok handlers =>
    cases there : r.entries.find? (normalizeHostName host) with
    | none =>
      have silent := errors_addHost sound (normalizeHostName host) [] target
      obtain ⟨entries, _, answer⟩ := addHost_stored sound.wellFormed.ordered there target
      rw [answer] at silent
      dsimp only
      rw [Logged.log_bind, errors_append, silent]
      dsimp only
      rw [Logged.log_bind, errors_append, errors_deployOn]
      exact Nat.zero_add _
    | some entry =>
      cases entry with
      | aliasOf owner => rfl
      | real owner =>
        dsimp only
        rw [Logged.log_bind, errors_append, errors_deployOn]
        rfl

/-- **One call**: as many errors as registrations that it refused. -/
theorem errors_run (sound : r.Sound) (call : Call H A W) :
    errors (r.run call).log = r.refusals (r.run call).value.1 call := by
  -- most calls do one thing and translate the answer
  have of_log {α : Type} {x : Logged α} {answer : α → Reply × Router H A W} {n : Nat}
      (counted : errors x.log = n) : errors (x >>= fun a => pure (answer a)).log = n := by
    rw [Logged.log_bind, Logged.log_pure, List.append_nil, counted]
  cases call with
  | setDefaultHost name => rfl
  | addHost name aliases target =>
    refine of_log ((errors_addHost sound name aliases target).trans ?_)
    exact if_congr (by simp [run]) rfl rfl
  | removeHost name => exact of_log (errors_removeHost r name)
  | addAlias host name => exact of_log (errors_addAlias r host name)
  | removeAlias name => exact of_log (errors_removeAlias r name)
  | deploy host target deployment => exact of_log (errors_deploy sound host target deployment)
  | undeploy place => exact of_log (errors_undeploy r place)
  | pause place target => exact of_log (errors_pause r place target)
  | addHandler place pattern target flags =>
    exact of_log (errors_addHandler r place pattern target flags)
  | removeHandler place pattern => exact of_log (errors_removeHandler r place pattern)
  | addWelcomeFile place name => rfl
  | removeWelcomeFile place name => rfl
  | clearWelcomeFiles place => rfl

/-- **No refusal is silent and no error is spurious.** Of each call on a reachable router as
many errors are reported as registrations were refused for a conflict. The aliases that are
refused with a host that is not are those that stand for something else afterwards, as they did
before. Lookups report passing detail only, and so do those that reuse a resolution. -/
theorem Reachable.refusals_logged {r : Router H A W} (reachable : r.Reachable) :
    (∀ call, errors (r.run call).log = r.refusals (r.run call).value.1 call) ∧
    (∀ name aliases target,
      (r.run (.addHost name aliases target)).value.1 ≠ .registration .rejected →
      ∀ other ∈ aliases, r.taken (normalizeHostName name) (normalizeHostName other) = true ↔
        (r.after (.addHost name aliases target)).realName? (normalizeHostName other) ≠
          some (normalizeHostName name)) ∧
    (∀ host uri requested, Traces (r.resolve host uri requested).log) ∧
    (∀ target uri, Traces (r.resolveWithin target uri).log) ∧
    ∀ (reused : Resolution H A W) (kept : Watch H A W),
      (∀ host uri requested, Traces ((⟨r, reused, kept⟩ : Session H A W).resolve host uri
        requested).log) ∧
      ∀ target uri, Traces ((⟨r, reused, kept⟩ : Session H A W).resolveWithin target uri).log := by
  have sound := reachable.sound
  refine ⟨errors_run sound, ?_, r.traces_resolve, r.traces_resolveWithin,
    fun reused kept => ⟨?_, ?_⟩⟩
  · intro name aliases target accepted other listed
    have registered : (r.addHost name aliases target).value.1 ≠ .rejected := by
      intro rejected
      exact accepted (congrArg Reply.registration rejected)
    have stands := realName?_addHost sound name aliases target registered (normalizeHostName other)
    rw [if_pos (List.mem_map_of_mem (List.mem_cons_of_mem name listed))] at stands
    have after : (r.after (.addHost name aliases target)).realName? (normalizeHostName other) = _ :=
      stands
    rw [after, taken]
    cases r.realName? (normalizeHostName other) <;> simp
  · intro host uri requested
    rw [Session.resolve_eq, Logged.log_map]
    exact traces_resolve r host uri requested
  · intro target uri
    rw [Session.resolveWithin_eq, Logged.log_map]
    exact traces_resolveWithin r target uri

/-- Two hosts, one with an alias and a version. -/
def contested : Router Nat Nat Nat :=
  runAll empty
    [.addHost "h" ["w"] 0, .addHost "g" [] 1, .deploy "h" 0 { path := "/a", target := 1 }]

/-- The first host again, with its alias, the name of the other, twice, and a new one. -/
def enteredAgain : Call Nat Nat Nat :=
  .addHost "h" ["w", "g", "n", "g"] 0

/-- Another version where one is deployed, with a pattern for two targets. -/
def secondVersion : Call Nat Nat Nat :=
  .deploy "h" 0 { path := "/a", target := 2
                  handlers := [⟨"/x", 1, {}⟩, ⟨"/x", 2, {}⟩, ⟨"/x", 1, { template := true }⟩] }

/-- A version with a pattern that is none, behind one for two targets and before another. -/
def brokenBatch : Call Nat Nat Nat :=
  .deploy "h" 0 { path := "/b", target := 2
                  handlers := [⟨"/", 4, {}⟩, ⟨"/", 5, {}⟩, ⟨"x", 6, {}⟩, ⟨"/", 7, {}⟩] }

theorem refusals_logged_contested :
    ((contested.run enteredAgain).value.1 = .registration .unchanged ∧
      errors (contested.run enteredAgain).log = 2) ∧
    errors (contested.run secondVersion).log = 2 ∧ errors (contested.run brokenBatch).log = 1 ∧
    Traces (contested.resolve "nobody" "/a" none).log := by
  have reachable : contested.Reachable := ⟨_, rfl⟩
  obtain ⟨counted, _, traces, _⟩ := reachable.refusals_logged
  have kept : (contested.run enteredAgain).value.1 = .registration .unchanged := by decide +kernel
  have claimed : contested.refusals (contested.run enteredAgain).value.1 enteredAgain = 2 := by
    decide +kernel
  have disputed : contested.refusals (contested.run secondVersion).value.1 secondVersion = 2 := by
    decide +kernel
  have first : contested.refusals (contested.run brokenBatch).value.1 brokenBatch = 1 := by
    decide +kernel
  rw [counted, counted, counted, claimed, disputed, first]
  exact ⟨⟨kept, rfl⟩, rfl, rfl, traces "nobody" "/a" none⟩

end Hosts

end Router

end VirtualHosting
