/-
# Proofs.Locality — a deployment changes one mount

Deploying a version rewrites the whole list of mounts of a host, moves what stands
behind it in the list and may raise the nesting by which every search in it starts.
Withdrawing one does the reverse. For all that, the router before and the router
after differ at one mount of one host (`DiffersAt`), and a request notices only if
it goes to that mount in the router which has it.

* `Mounts.WellFormed.select?_of_agreeOff`: a mount that a request does not select
  makes no difference to what it selects;
* `servingName?_eq`: which host serves is settled by the names alone;
* `DiffersAt.selects_or_resolve_eq`: a request that does not select the mount gets
  the same result from both routers;
* `deploy_differsAt`, `undeploy_differsAt`: the calls are such differences;
* `Reachable.deployments_local`: so results change where the mount is selected only.
-/
import VirtualHosting.Proofs.Copies
import VirtualHosting.Proofs.HostPrecedence

namespace VirtualHosting

set_option autoImplicit false

variable {H A W : Type}

/-! ## Mounts that differ at one path -/

namespace Mounts

/-- Nothing but what is mounted at one path is different. -/
def AgreeOff (path : String) (mounts next : Mounts A W) : Prop :=
  ∀ other, other ≠ path → ∀ label, next.version? other label = mounts.version? other label

variable {mounts next : Mounts A W} {path uri : String}

theorem AgreeOff.symm (agree : AgreeOff path mounts next) : AgreeOff path next mounts :=
  fun other away label => (agree other away label).symm

/-- One binding more or less is a difference at one path. -/
theorem AgreeOff.of_update {label : String} {bound : Option (Version A W)}
    (changed : ∀ path' label', next.version? path' label' =
      if path' = path ∧ label' = label then bound else mounts.version? path' label') :
    AgreeOff path mounts next := by
  intro other away label'
  rw [changed, if_neg]
  intro both
  exact away both.1

namespace WellFormed

/-- What a request selects is there in every list of mounts that agrees on it. -/
theorem mem_of_agreeOff (ordered : mounts.WellFormed) (nextOrdered : next.WellFormed)
    (agree : AgreeOff path mounts next) {other : String} (away : other ≠ path)
    (application : Application A W) :
    (other, application) ∈ next.applications.toList ↔
      (other, application) ∈ mounts.applications.toList := by
  have same := find?_eq_of_version? ordered nextOrdered (agree other away)
  rw [← ordered.ordered.find?_eq_some_iff, ← nextOrdered.ordered.find?_eq_some_iff]
  exact iff_of_eq (congrArg (· = some application) same)

/-- **A mount that a request does not select makes no difference** to the mount that
it does select. -/
theorem select?_of_agreeOff (ordered : mounts.WellFormed) (nextOrdered : next.WellFormed)
    (agree : AgreeOff path mounts next) (there : path ∈ next.applications.names)
    (spared : ∀ application, ¬ next.applications.MostSpecific uri (path, application)) :
    next.select? uri = mounts.select? uri := by
  have named {name : String} (mem : name ∈ mounts.applications.names) :
      name ∈ next.applications.names := by
    by_cases here : name = path
    · rw [here]
      exact there
    · obtain ⟨application, mem⟩ := Table.mem_names_iff.1 mem
      exact Table.mem_names_iff.2
        ⟨application, (mem_of_agreeOff ordered nextOrdered agree here application).2 mem⟩
  have kept {e : String × Application A W} (best : next.applications.MostSpecific uri e) :
      mounts.applications.MostSpecific uri e := by
    have away : e.1 ≠ path := by
      rintro rfl
      exact spared e.2 best
    exact ⟨(mem_of_agreeOff ordered nextOrdered agree away e.2).1 best.mem, best.reaches,
      fun name mem reach => best.longest name (named mem) reach⟩
  apply Option.ext
  intro e
  rw [nextOrdered.select?_eq_some_iff, ordered.select?_eq_some_iff]
  constructor
  · exact kept
  · intro best
    -- what is selected before is reached after, so something is selected after
    obtain ⟨e', best'⟩ := Table.exists_mostSpecific
      (named (Table.mem_names_of_mem best.mem)) best.reaches
    rw [best.unique ordered.ordered (kept best')]
    exact best'

end WellFormed

end Mounts

namespace Router

variable {r next : Router H A W} {name path host uri : String} {owner : Host H A W}

/-! ## The host that serves, by the names alone -/

/-- The name of the host that serves a request. -/
def servingName? (r : Router H A W) (host : String) : Option String :=
  (r.requestedEntry? host).map fun e => e.2.realName e.1

theorem map_entry?_eq_realName? (ordered : r.entries.Ordered) (key : String) :
    (r.entries.entry? key).map (fun e => e.2.realName e.1) = r.realName? key := by
  apply Option.ext
  intro real
  rw [Option.map_eq_some_iff, realName?_eq_some_iff]
  constructor
  · rintro ⟨⟨key', entry⟩, found, named⟩
    obtain ⟨mem, rfl⟩ := ordered.entry?_eq_some_iff.1 found
    exact ⟨entry, ordered.find?_eq_some_iff.2 mem, named⟩
  · rintro ⟨entry, there, named⟩
    exact ⟨(key, entry), entry?_of_find? ordered there, named⟩

/-- Which host serves is settled by the names and the default host. -/
theorem servingName?_eq (ordered : r.WellFormed) (host : String) :
    r.servingName? host = (r.askedName? host).bind fun name =>
      (r.realName? (Text.fold name)).or
        (((Text.fromFirst? '.' (Text.fold name)).bind r.realName?).or
          (r.defaultHost.bind r.realName?)) := by
  have reads : r.realName? = fun key =>
      (r.entries.entry? key).map fun e => e.2.realName e.1 := by
    funext key
    exact (map_entry?_eq_realName? ordered.ordered key).symm
  have served : r.servingEntry? = fun name =>
      (r.entries.entry? (Text.fold name)).or
        (((Text.fromFirst? '.' (Text.fold name)).bind r.entries.entry?).or
          (r.defaultHost.bind r.entries.entry?)) := by
    funext name
    exact servingEntry?_eq ordered name
  rw [servingName?, requestedEntry?, askedName?, Option.map_bind, served, reads]
  simp only [Function.comp_def, Option.map_or, Option.map_bind]

theorem Sound.servingHost?_eq (sound : r.Sound) (host : String) :
    r.servingHost? host = (r.servingName? host).bind r.host? := by
  rw [servingHost?, servingName?, Option.bind_map]
  cases selected : r.requestedEntry? host with
  | none => rfl
  | some e => exact (sound.host?_of_requestedEntry? selected).symm

/-- A request selects the mount at a path of a host, asked for by the name of that
host or by one of its aliases. -/
def Selects (r : Router H A W) (host uri name path : String) : Prop :=
  ∃ e serving application, r.requestedEntry? host = some e ∧ r.host? name = some serving ∧
    e.1 ∈ name :: serving.aliases ∧
    serving.mounts.applications.MostSpecific uri (path, application)

theorem Sound.mem_cons_aliases_of_servingName? (sound : r.Sound)
    (serves : r.servingName? host = some name) (known : r.host? name = some owner) :
    ∃ e, r.requestedEntry? host = some e ∧ e.1 ∈ name :: owner.aliases := by
  obtain ⟨e, selected, named⟩ := Option.map_eq_some_iff.1 serves
  have there := sound.wellFormed.ordered.find?_eq_some_iff.2 (mem_of_requested selected)
  refine ⟨e, selected, ?_⟩
  rw [sound.mem_cons_aliases_iff known]
  exact realName?_eq_some_iff.2 ⟨e.2, there, named⟩

/-- Where a version is deployed, an application is mounted. -/
theorem Sound.mem_names_of_version? (sound : r.Sound) (known : r.host? name = some owner)
    {label : String} (there : r.version? ⟨name, path, label⟩ ≠ none) :
    path ∈ owner.mounts.applications.names := by
  refine (sound.wellFormed.of_host? known).mem_names_iff_version?.2 ⟨label, ?_⟩
  rw [version?, known, Option.bind_some] at there
  exact there

/-! ## Routers that differ at one mount -/

/-- Nothing but what is mounted at one path of one host is different. -/
structure DiffersAt (r next : Router H A W) (name path : String) : Prop where
  names : next.realName? = r.realName?
  default : next.defaultHost = r.defaultHost
  elsewhere : ∀ other, other ≠ name → next.host? other = r.host? other
  here : ∃ (owner : Host H A W) (mounts : Mounts A W), r.host? name = some owner ∧
    next.host? name = some { owner with mounts } ∧ Mounts.AgreeOff path owner.mounts mounts

namespace DiffersAt

theorem symm (differs : r.DiffersAt next name path) : next.DiffersAt r name path where
  names := differs.names.symm
  default := differs.default.symm
  elsewhere other away := (differs.elsewhere other away).symm
  here := by
    obtain ⟨owner, mounts, known, known', agree⟩ := differs.here
    exact ⟨{ owner with mounts }, owner.mounts, known', known, agree.symm⟩

/-- Changing one binding of one host is such a difference, whatever the index. -/
theorem of_modifyMounts (ordered : r.entries.Ordered) (known : r.host? name = some owner)
    {f : Mounts A W → Mounts A W} (index : TargetIndex A)
    (agree : Mounts.AgreeOff path owner.mounts (f owner.mounts)) :
    r.DiffersAt { r.modifyMounts name f with index } name path where
  names := by
    funext key
    have same := congrArg Ledger.names (ledger_modifyMounts ordered known f)
    exact congrArg (fun names => (names key).map (·.realName key)) same
  default := rfl
  elsewhere other away := (host?_modifyMounts ordered name f other).trans (if_neg away)
  here := by
    have changed := (host?_modifyMounts ordered name f name).trans (if_pos rfl)
    rw [known] at changed
    exact ⟨owner, f owner.mounts, known, changed, agree⟩

theorem servingName?_eq (differs : r.DiffersAt next name path) (ordered : r.WellFormed)
    (nextOrdered : next.WellFormed) (host : String) :
    next.servingName? host = r.servingName? host := by
  rw [Router.servingName?_eq ordered, Router.servingName?_eq nextOrdered, askedName?, askedName?,
    differs.names, differs.default]

/-- **A difference at a mount is noticed by the requests that select it**, in the
router that has the mount. -/
theorem selects_or_resolve_eq (differs : r.DiffersAt next name path) (sound : r.Sound)
    (nextSound : next.Sound) {label : String} (there : next.version? ⟨name, path, label⟩ ≠ none)
    (host uri : String) :
    next.Selects host uri name path ∨
      ∀ requested,
        (next.resolve host uri requested).value = (r.resolve host uri requested).value := by
  by_cases selects : next.Selects host uri name path
  · exact .inl selects
  refine .inr fun requested => ?_
  rw [value_resolve, value_resolve, sound.servingHost?_eq, nextSound.servingHost?_eq,
    differs.servingName?_eq sound.wellFormed nextSound.wellFormed]
  cases serves : r.servingName? host with
  | none => rfl
  | some real =>
    rw [Option.bind_some, Option.bind_some]
    by_cases here : real = name
    · subst here
      obtain ⟨owner, mounts, known, known', agree⟩ := differs.here
      have serves' := (differs.servingName?_eq sound.wellFormed nextSound.wellFormed host).trans
        serves
      obtain ⟨e, selected, member⟩ := nextSound.mem_cons_aliases_of_servingName? serves' known'
      have same : mounts.select? uri = owner.mounts.select? uri := by
        apply (sound.wellFormed.of_host? known).select?_of_agreeOff
          (nextSound.wellFormed.of_host? known') agree
          (nextSound.mem_names_of_version? known' there)
        intro application best
        exact selects ⟨e, _, application, selected, known', member, best⟩
      rw [known, known']
      simp only [value_resolveOn, same]
    · rw [differs.elsewhere real here]

end DiffersAt

/-! ## Deploying and withdrawing -/

variable [DecidableEq A]

/-- Withdrawing a version takes it from one mount, or nothing from any. -/
theorem undeploy_differsAt (sound : r.Sound) (place : Coordinates) :
    (r.undeploy place).value.2 = r ∨
      r.version? (stored place) ≠ none ∧
        r.DiffersAt (r.undeploy place).value.2 (stored place).host place.path := by
  rw [value_undeploy]
  cases known : r.host? (normalizeHostName place.host) with
  | none => exact .inl rfl
  | some owner =>
    cases mounted : owner.mounts.find? place.path with
    | none => simp only [mounted, true_or]
    | some application =>
      simp only [mounted]
      cases deployed : application.versions.find? place.version with
      | none => exact .inl rfl
      | some removed =>
        cases erased : application.versions.erase? place.version with
        | none => exact .inl rfl
        | some remaining =>
          have ordered := sound.wellFormed.of_host? known
          have there : r.version? (stored place) = some removed :=
            version?_eq_some_iff.2 ⟨owner, application, known, mounted, deployed⟩
          have differs := DiffersAt.of_modifyMounts (f := fun mounts =>
            if remaining.isEmpty then (mounts.remove? place.path).getD mounts
            else mounts.modifyVersions place.path fun _ => remaining)
            sound.wellFormed.ordered known (r.index.forget removed.target (stored place))
            (.of_update (ordered.version?_withdraw mounted erased))
          exact .inr ⟨by simp [there], differs⟩

variable [DecidableEq H] [DecidableEq W]

/-- Deploying a version on a host that is there adds it to one mount, or nothing to
any. -/
theorem deploy_differsAt (sound : r.Sound) (known : r.host? (normalizeHostName host) = some owner)
    (hostTarget : H) (deployment : Deployment A W) :
    (r.deploy host hostTarget deployment).value.2 = r ∨
      (r.deploy host hostTarget deployment).value.2.version?
          ⟨normalizeHostName host, deployment.path, deployment.version⟩ ≠ none ∧
        r.DiffersAt (r.deploy host hostTarget deployment).value.2 (normalizeHostName host)
          deployment.path := by
  cases gathered : (gather deployment.path .empty deployment.handlers).value with
  | error refusal =>
    rw [value_deploy, gathered]
    exact .inl rfl
  | ok handlers =>
    have step : (r.deploy host hostTarget deployment).value.2 =
        (r.deployOn (normalizeHostName host) owner.mounts deployment handlers).value.2 := by
      rw [value_deploy, gathered, host?_eq_some_iff.1 known]
    rw [step]
    have ordered := sound.wellFormed.of_host? known
    cases taken : owner.mounts.version? deployment.path deployment.version with
    | some existing =>
      rw [value_deployOn_taken ordered taken]
      exact .inl rfl
    | none =>
      obtain ⟨published, done, changed⟩ :=
        exists_deployOn_free ordered taken r (normalizeHostName host) handlers
      have bound := version?_modifyMounts_update (f := fun _ => published)
        sound.wellFormed.ordered known changed
      have there := (bound ⟨_, deployment.path, deployment.version⟩).trans (if_pos rfl)
      rw [done]
      refine .inr ⟨?_, DiffersAt.of_modifyMounts sound.wellFormed.ordered known _
        (.of_update changed)⟩
      intro missing
      cases there.symm.trans missing

/-- **Deployments are local**: one on a host that is there changes no result but of
requests that go to its mount afterwards, and withdrawing one changes no result but
of requests that went to its mount before. -/
theorem Reachable.deployments_local (reachable : r.Reachable) :
    (∀ host hostTarget deployment, (r.host? (normalizeHostName host)).isSome →
      ∀ asked uri requested,
        ((r.after (.deploy host hostTarget deployment)).resolve asked uri requested).value ≠
          (r.resolve asked uri requested).value →
        (r.after (.deploy host hostTarget deployment)).Selects asked uri (normalizeHostName host)
          deployment.path) ∧
    ∀ place asked uri requested,
      ((r.after (.undeploy place)).resolve asked uri requested).value ≠
        (r.resolve asked uri requested).value →
      r.Selects asked uri (normalizeHostName place.host) place.path := by
  have sound := reachable.sound
  constructor
  · intro host hostTarget deployment registered asked uri requested changed
    obtain ⟨owner, known⟩ := Option.isSome_iff_exists.1 registered
    have nextSound := (reachable.run (.deploy host hostTarget deployment)).sound
    rcases deploy_differsAt sound known hostTarget deployment with same | ⟨there, differs⟩
    · exact absurd (congrArg (fun s => (s.resolve asked uri requested).value) same) changed
    · rcases differs.selects_or_resolve_eq sound nextSound there asked uri with selects | alike
      · exact selects
      · exact absurd (alike requested) changed
  · intro place asked uri requested changed
    have nextSound := (reachable.run (.undeploy place)).sound
    rcases undeploy_differsAt sound place with same | ⟨there, differs⟩
    · exact absurd (congrArg (fun s => (s.resolve asked uri requested).value) same) changed
    · rcases differs.symm.selects_or_resolve_eq nextSound sound there asked uri with
        selects | alike
      · exact selects
      · exact absurd (alike requested).symm changed

/-- A host with an alias and one application. -/
def aliasedMount : Router Nat Nat Nat :=
  runAll empty [.addHost "h" ["w"] 0, .deploy "h" 0 { path := "/a", target := 1 }]

/-- An application below raises the nesting, and a request by the alias goes to it. -/
theorem deployments_local_aliasedMount :
    (aliasedMount.after (.deploy "h" 0 { path := "/a/b", target := 2 })).Selects "w" "/a/b/c" "h"
        "/a/b" ∧
      aliasedMount.Selects "w" "/a/b/c" "h" "/a" := by
  have reachable : aliasedMount.Reachable := ⟨_, rfl⟩
  have stored : normalizeHostName "h" = "h" := by decide +kernel
  have registered : (aliasedMount.host? (normalizeHostName "h")).isSome := by decide +kernel
  obtain ⟨deployed, withdrawn⟩ := reachable.deployments_local
  constructor
  · have selects := deployed "h" 0 { path := "/a/b", target := 2 } registered "w" "/a/b/c" none
      fun same => absurd (congrArg Resolution.application same) (by decide +kernel)
    rw [stored] at selects
    exact selects
  · have selects := withdrawn ⟨"h", "/a", ""⟩ "w" "/a/b/c" none
      fun same => absurd (congrArg Resolution.application same) (by decide +kernel)
    rw [stored] at selects
    exact selects

end Router

end VirtualHosting
