/-
# Proofs.MountSelection — the most specific mount serves a request

Once a request has selected a host entry, the mount is settled by the path alone
and the version by the label alone. `Host.Answers` states what a result must
then be, in terms of the mount paths and labels there are and of no search.

* `Mounts.WellFormed.select?_eq_some_iff`: the mount selected is the most specific;
* `exists_servingVersion`: some version serves, and the rule says which;
* `resolve_answers`: every request that selects a host entry is answered so.
-/
import VirtualHosting.Proofs.Covering
import VirtualHosting.Proofs.Reachable
import VirtualHosting.Resolution.Resolve

namespace VirtualHosting

set_option autoImplicit false

variable {H A W : Type}

/-! ## Mounts and versions -/

/-- The mount that is selected is the most specific one. -/
theorem Mounts.WellFormed.select?_eq_some_iff {mounts : Mounts A W} (ordered : mounts.WellFormed)
    {uri : String} {e : String × Application A W} :
    mounts.select? uri = some e ↔ mounts.applications.MostSpecific uri e := by
  rw [← ordered.ordered.covering?_eq_some_iff ordered.nesting.1, Mounts.select?]
  cases searched : mounts.applications.covering? uri mounts.nesting with
  | some found => rfl
  | none =>
    -- the root application reaches every path, so the search does not miss it
    have unreached := (ordered.ordered.covering?_eq_none_iff ordered.nesting.1).1 searched
    have no_root : mounts.applications.first?.filter (·.1 == "") = none := by
      rw [Option.filter_eq_none_iff]
      intro first stored root
      have named := Table.mem_names_of_mem (Table.mem_of_first? stored)
      exact unreached first.1 named (.inl (eq_of_beq root))
    rw [no_root]
    rfl

/-- The version that is to serve a request: the one under the requested label if
there is such a version, else the one under the greatest. -/
structure Application.Serves (application : Application A W) (requested : Option String)
    (label : String) (version : Version A W) : Prop where
  deployed : (label, version) ∈ application.versions.toList
  asked : ∀ want ∈ requested, want ∈ application.versions.names → label = want
  greatest : (∀ want ∈ requested, want ∉ application.versions.names) →
    ∀ other ∈ application.versions.names, other ≤ label

/-- Some version serves, whatever is requested. -/
theorem exists_servingVersion {application : Application A W} {path : String}
    (ordered : application.WellFormed path) (requested : Option String) :
    ∃ label version, Router.servingVersion? application.versions requested = some (label, version) ∧
      application.Serves requested label version := by
  obtain ⟨⟨label, version⟩, last, mem, greatest⟩ :=
    ordered.ordered.last?_greatest ordered.deployed
  have serves_last (unmet : ∀ want ∈ requested, want ∈ application.versions.names →
      want = label) : application.Serves requested label version :=
    ⟨mem, fun want asked named => (unmet want asked named).symm, fun _ => greatest⟩
  unfold Router.servingVersion?
  by_cases several : application.versions.size > 1
  · rw [if_pos several]
    cases found : requested.bind application.versions.entry? with
    | none =>
      refine ⟨label, version, last, serves_last fun want asked named => ?_⟩
      rw [Option.mem_def.1 asked, Option.bind_some] at found
      have there := (ordered.ordered.isSome_entry?_iff).2 named
      rw [found] at there
      cases there
    | some e =>
      obtain ⟨want, asked, found⟩ := Option.bind_eq_some_iff.1 found
      obtain ⟨stored, rfl⟩ := ordered.ordered.entry?_eq_some_iff.1 found
      refine ⟨e.1, e.2, rfl, stored, fun other asked' _ => ?_, fun unmet => ?_⟩
      · exact Option.some.inj (asked.symm.trans asked')
      · exact absurd (Table.mem_names_of_mem stored) (unmet e.1 asked)
  · rw [if_neg several]
    refine ⟨label, version, last, serves_last fun want _ named => ?_⟩
    -- the only label is the last one
    have only : application.versions.names.length = 1 := by
      have some_left := List.length_pos_iff.2 ordered.deployed
      have count : application.versions.names.length = application.versions.size := by
        simp [Table.names, Table.toList, Table.size]
      omega
    obtain ⟨single, whole⟩ := List.length_eq_one_iff.1 only
    have here := Table.mem_names_of_mem mem
    rw [whole, List.mem_singleton] at named here
    exact named.trans here.symm

/-! ## Completing a resolution -/

namespace Resolution

variable (result : Resolution H A W) (uri : String) (selection : Selection W)

@[simp]
theorem host_complete : (result.complete uri selection).host = result.host := by
  cases selection <;> rfl

@[simp]
theorem application_complete :
    (result.complete uri selection).application = result.application := by
  cases selection <;> rfl

@[simp]
theorem versions_complete : (result.complete uri selection).versions = result.versions := by
  cases selection <;> rfl

@[simp]
theorem slashCount_complete :
    (result.complete uri selection).slashCount = result.slashCount := by
  cases selection <;> rfl

/-- The application path stands, unless the application root was matched. -/
theorem applicationPath_complete :
    (result.complete uri selection).applicationPath = result.applicationPath ∨
      (result.complete uri selection).matchKind = some .applicationRoot ∧
        (result.complete uri selection).applicationPath = "" := by
  cases selection with
  | none | redirect => exact .inl rfl
  | handler choice =>
    by_cases root : choice.kind = .applicationRoot
    · exact .inr ⟨congrArg some root, if_pos root⟩
    · exact .inl (if_neg root)

end Resolution

/-! ## Requests -/

/-- What a request comes to that one version of a mounted application serves. -/
structure Resolution.ServedBy (result : Resolution H A W) (path : String)
    (mounted : Application A W) (version : Version A W) : Prop where
  application : result.application = some version.target
  ordered : mounted.versions.Ordered
  /-- Several versions are listed in the order of their labels, a single one is not. -/
  versions : result.versions =
    if mounted.versions.size = 1 then [] else mounted.versions.values.map (·.target)
  slashCount : result.slashCount = Slash.count path
  applicationPath : result.applicationPath = path ∨
    result.matchKind = some .applicationRoot ∧ result.applicationPath = ""
  paused : version.paused = true → result.handler = none ∧ result.redirectPath = none

/-- What a request comes to that a host serves. -/
structure Host.Answers (serving : Host H A W) (uri : String) (requested : Option String)
    (result : Resolution H A W) : Prop where
  host : result.host = some serving.target
  unmounted : result.application = none ↔
    ∀ path ∈ serving.mounts.applications.names, ¬ Slash.Reaches path uri
  mounted : ∀ path application,
    serving.mounts.applications.MostSpecific uri (path, application) →
      ∃ label version, application.Serves requested label version ∧
        result.ServedBy path application version

namespace Router

theorem value_resolveOn (mounts : Mounts A W) (host : H) (hostName uri : String)
    (requested : Option String) :
    (resolveOn mounts host hostName uri requested).value =
      match mounts.select? uri with
      | none => { host := some host }
      | some (path, application) =>
        let reached : Resolution H A W :=
          { host := some host, applicationPath := path
            versions := if application.versions.size > 1
              then application.versions.values.map (·.target) else [] }
        match servingVersion? application.versions requested with
        | none => reached
        | some (_, version) =>
          let reached :=
            { reached with application := some version.target, slashCount := version.slashCount }
          if version.paused then reached
          else reached.complete uri (version.select uri).value := by
  unfold resolveOn
  cases mounts.select? uri with
  | none => rfl
  | some e =>
    dsimp only
    cases servingVersion? e.2.versions requested with
    | none => rfl
    | some chosen =>
      dsimp only
      split <;> rfl

/-- Whether it is paused or not, a version that was reached serves the request. -/
theorem servedBy_reached {path label : String} {application : Application A W}
    {version : Version A W} (ordered : application.WellFormed path)
    (deployed : (label, version) ∈ application.versions.toList) (host : H) (uri : String) :
    let reached : Resolution H A W :=
      { host := some host, applicationPath := path
        versions := if application.versions.size > 1
          then application.versions.values.map (·.target) else []
        application := some version.target, slashCount := version.slashCount }
    (if version.paused then reached
      else reached.complete uri (version.select uri).value).ServedBy path application version := by
  have known := ordered.versions label version deployed
  have listed : (if application.versions.size > 1
      then application.versions.values.map (·.target) else []) =
      if application.versions.size = 1 then [] else application.versions.values.map (·.target) := by
    have some_left : 0 < application.versions.size := by
      rw [Table.size, ← Array.length_toList]
      exact List.length_pos_of_mem deployed
    by_cases single : application.versions.size = 1
    · rw [if_pos single, if_neg (by omega)]
    · rw [if_neg single, if_pos (by omega)]
  intro reached
  split
  · exact ⟨rfl, ordered.ordered, listed, known.slashCount_eq, .inl rfl, fun _ => ⟨rfl, rfl⟩⟩
  · rename_i active
    exact ⟨reached.application_complete uri _, ordered.ordered,
      (reached.versions_complete uri _).trans listed,
      (reached.slashCount_complete uri _).trans known.slashCount_eq,
      reached.applicationPath_complete uri _, fun paused => absurd paused active⟩

/-- On the host that serves it, a request is answered by the rule. -/
theorem resolveOn_answers {serving : Host H A W} (ordered : serving.mounts.WellFormed)
    (name uri : String) (requested : Option String) :
    serving.Answers uri requested
      (resolveOn serving.mounts serving.target name uri requested).value := by
  have selects {e : String × Application A W} : serving.mounts.select? uri = some e ↔
      serving.mounts.applications.MostSpecific uri e := ordered.select?_eq_some_iff
  rw [value_resolveOn]
  cases selected : serving.mounts.select? uri with
  | none =>
    have nothing (e : String × Application A W) :
        ¬ serving.mounts.applications.MostSpecific uri e := by
      intro best
      rw [← selects, selected] at best
      cases best
    refine ⟨rfl, iff_of_true rfl fun path named reach => ?_, fun path application best => ?_⟩
    · obtain ⟨e, best⟩ := Table.exists_mostSpecific named reach
      exact nothing e best
    · exact absurd best (nothing _)
  | some e =>
    obtain ⟨path, application⟩ := e
    have best := selects.1 selected
    have mounted := ordered.applications path application best.mem
    obtain ⟨label, version, chosen, serves⟩ := exists_servingVersion mounted requested
    have served := servedBy_reached mounted serves.deployed serving.target uri
    simp only [chosen]
    refine ⟨?_, iff_of_false ?_ fun unreached => ?_, fun path' application' best' => ?_⟩
    · split <;> simp
    · intro missing
      cases served.application.symm.trans missing
    · exact unreached path (Table.mem_names_of_mem best.mem) best.reaches
    · obtain ⟨rfl, rfl⟩ := Prod.mk.inj (best.unique ordered.ordered best')
      exact ⟨label, version, serves, served⟩

/-- The entry that a request selects. An empty host name stands for the default
host. -/
def requestedEntry? (r : Router H A W) (host : String) : Option (String × HostEntry H A W) :=
  (if host = "" then r.defaultHost else some host).bind r.servingEntry?

theorem mem_of_serving {r : Router H A W} {name : String}
    {e : String × HostEntry H A W} (found : r.servingEntry? name = some e) :
    e ∈ r.entries.toList := by
  unfold servingEntry? entryFor? at found
  simp only [Option.orElse_eq_orElse, Option.orElse_eq_or, Option.or_eq_some_iff,
    Option.bind_eq_some_iff] at found
  rcases found with (found | ⟨_, _, _, found⟩) | ⟨_, _, _, found⟩
  · exact Table.mem_of_entryFolded? found
  · exact Table.mem_of_entryFolded? found
  · exact Table.mem_of_entry? found

theorem hostBehind?_of_find? {r : Router H A W} {name : String} {entry : HostEntry H A W}
    (there : r.entries.find? name = some entry) :
    r.hostBehind? entry = r.host? (entry.realName name) := by
  cases entry with
  | real serving => exact (host?_eq_some_iff.2 there).symm
  | aliasOf owner => rfl

/-- Every entry leads to a host whose mounts are in order. -/
theorem Sound.exists_hostBehind {r : Router H A W} (sound : r.Sound)
    {e : String × HostEntry H A W} (mem : e ∈ r.entries.toList) :
    ∃ serving, r.hostBehind? e.2 = some serving ∧ serving.mounts.WellFormed := by
  have there := sound.wellFormed.ordered.find?_eq_some_iff.2 mem
  obtain ⟨serving, known⟩ := sound.exists_realName there
  exact ⟨serving, (hostBehind?_of_find? there).trans known, sound.wellFormed.of_host? known⟩

variable [DecidableEq H] [DecidableEq A] [DecidableEq W]

/-- **The most specific mount serves a request**, and of its versions the one
requested or the greatest, in whatever way the router came about. -/
theorem resolve_answers {r : Router H A W} (reachable : r.Reachable) {host : String}
    {e : String × HostEntry H A W} (selected : r.requestedEntry? host = some e)
    (uri : String) (requested : Option String) :
    ∃ serving, r.hostBehind? e.2 = some serving ∧
      serving.Answers uri requested (r.resolve host uri requested).value := by
  obtain ⟨name, named, found⟩ := Option.bind_eq_some_iff.1 selected
  have mem := mem_of_serving found
  obtain ⟨serving, behind, ordered⟩ := reachable.sound.exists_hostBehind mem
  refine ⟨serving, behind, ?_⟩
  unfold resolve
  rw [named]
  simp only [found, Option.bind_some, behind]
  exact resolveOn_answers ordered name uri requested

/-- One application mounted inside another. -/
def nestedMounts : Router Nat Nat Nat :=
  runAll empty
    [.deploy "h" 0 { path := "/a", target := 1 }, .deploy "h" 0 { path := "/a/b", target := 2 }]

theorem resolve_answers_nestedMounts :
    ∃ e serving, nestedMounts.requestedEntry? "h" = some e ∧
      nestedMounts.hostBehind? e.2 = some serving ∧
      serving.Answers "/a/b/x" none (nestedMounts.resolve "h" "/a/b/x" none).value := by
  have reachable : nestedMounts.Reachable := ⟨_, rfl⟩
  have some_entry : (nestedMounts.requestedEntry? "h").isSome = true := by decide +kernel
  obtain ⟨e, selected⟩ := Option.isSome_iff_exists.1 some_entry
  obtain ⟨serving, behind, answers⟩ := resolve_answers reachable selected "/a/b/x" none
  exact ⟨e, serving, selected, behind, answers⟩

end Router

end VirtualHosting
