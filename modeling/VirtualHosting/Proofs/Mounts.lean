/-
# Proofs.Mounts — versions as a finite map

A version is deployed at a path and a label, and lies two tables deep. Here it is
said once what publishing and withdrawing a version do to `Mounts.version?`: one
binding comes or goes, be the application new, grown, shrunk or gone.

* `WellFormed.ext`: nothing else is in mounts that are in order;
* `WellFormed.publish_free`, `WellFormed.publish_taken`: publishing a version;
* `WellFormed.version?_withdraw`: withdrawing one.
-/
import VirtualHosting.Proofs.WellFormed

namespace VirtualHosting.Mounts.WellFormed

set_option autoImplicit false

variable {A W : Type} {mounts next : Mounts A W} {application : Application A W}
  {version : Version A W} {path label : String}

/-! ## One application more, less or changed -/

theorem find?_add (ordered : mounts.WellFormed) (added : mounts.add? path application = some next)
    (key : String) :
    next.find? key = if key = path then some application else mounts.find? key := by
  obtain ⟨applications, inserted, rfl⟩ := Option.map_eq_some_iff.1 added
  exact ordered.ordered.find?_insert? inserted key

theorem find?_remove (ordered : mounts.WellFormed) (removed : mounts.remove? path = some next)
    (key : String) : next.find? key = if key = path then none else mounts.find? key := by
  obtain ⟨applications, erased, rfl⟩ := Option.map_eq_some_iff.1 removed
  exact ordered.ordered.find?_erase? erased key

theorem find?_modifyVersions (ordered : mounts.WellFormed) (path : String)
    (f : Table (Version A W) → Table (Version A W)) (key : String) :
    (mounts.modifyVersions path f).find? key =
      if key = path then (mounts.find? key).map fun a => ⟨f a.versions⟩ else mounts.find? key :=
  ordered.ordered.find?_modify path _ key

theorem version?_modifyVersions (ordered : mounts.WellFormed)
    (mounted : mounts.find? path = some application)
    (f : Table (Version A W) → Table (Version A W)) (path' label' : String) :
    (mounts.modifyVersions path f).version? path' label' =
      if path' = path then (f application.versions).find? label'
      else mounts.version? path' label' := by
  rw [version?, ordered.find?_modifyVersions]
  split
  · rename_i here
    rw [here, mounted, Option.map_some, Option.bind_some]
  · rfl

theorem version?_of_find? (mounted : mounts.find? path = some application) (label : String) :
    mounts.version? path label = application.versions.find? label := by
  rw [version?, mounted, Option.bind_some]

/-- An application is mounted exactly where a version is deployed. -/
theorem mem_names_iff_version? (ordered : mounts.WellFormed) :
    path ∈ mounts.applications.names ↔ ∃ label, mounts.version? path label ≠ none := by
  constructor
  · intro named
    obtain ⟨application, mem⟩ := Table.mem_names_iff.1 named
    have known := ordered.applications path application mem
    obtain ⟨label, labelled⟩ := List.exists_mem_of_ne_nil _ known.deployed
    refine ⟨label, ?_⟩
    rw [version?_of_find? (ordered.ordered.find?_eq_some_iff.2 mem), Ne,
      known.ordered.find?_eq_none_iff, not_not]
    exact labelled
  · rintro ⟨label, there⟩
    by_contra missing
    apply there
    rw [version?, Mounts.find?, ordered.ordered.find?_eq_none_iff.2 missing, Option.bind_none]

/-! ## Mounts by their versions -/

/-- An application is its versions. -/
theorem find?_eq_of_version? (ordered : mounts.WellFormed) (nextOrdered : next.WellFormed)
    (same : ∀ label, next.version? path label = mounts.version? path label) :
    next.find? path = mounts.find? path := by
  have missing : next.find? path = none ↔ mounts.find? path = none := by
    have named : path ∈ next.applications.names ↔ path ∈ mounts.applications.names := by
      rw [nextOrdered.mem_names_iff_version?, ordered.mem_names_iff_version?]
      simp only [same]
    rw [Mounts.find?, Mounts.find?, nextOrdered.ordered.find?_eq_none_iff,
      ordered.ordered.find?_eq_none_iff, named]
  cases mounted : mounts.find? path with
  | none => exact missing.2 mounted
  | some application =>
    obtain ⟨application', mounted'⟩ : ∃ application', next.find? path = some application' := by
      apply Option.ne_none_iff_exists'.1
      intro gone
      cases mounted.symm.trans (missing.1 gone)
    have versions : application'.versions = application.versions := by
      refine (nextOrdered.of_find? mounted').ordered.ext (ordered.of_find? mounted).ordered ?_
      intro label
      rw [← version?_of_find? mounted', ← version?_of_find? mounted, same]
    rw [mounted']
    exact congrArg (some ∘ Application.mk) versions

/-- Mounts are their versions. -/
theorem ext (ordered : mounts.WellFormed) (nextOrdered : next.WellFormed)
    (same : ∀ path label, next.version? path label = mounts.version? path label) :
    next = mounts := by
  have applications : next.applications = mounts.applications :=
    nextOrdered.ordered.ext ordered.ordered fun path =>
      find?_eq_of_version? ordered nextOrdered (same path)
  have nesting : next.nesting = mounts.nesting := by
    apply nextOrdered.nesting.unique
    rw [applications]
    exact ordered.nesting
  cases next
  cases mounts
  simp_all

/-! ## Publishing and withdrawing -/

variable [DecidableEq A]

/-- A free place receives the version. -/
theorem publish_free (ordered : mounts.WellFormed) (free : mounts.version? path label = none)
    (version : Version A W) :
    ∃ published, Router.publish mounts path label version = (.added, published) ∧
      ∀ path' label', published.version? path' label' =
        if path' = path ∧ label' = label then some version else mounts.version? path' label' := by
  unfold Router.publish
  cases mounted : mounts.find? path with
  | none =>
    cases added : mounts.add? path ⟨Table.singleton label version⟩ with
    | none =>
      have taken := Option.map_eq_none_iff.1 added
      rw [ordered.ordered.insert?_eq_none_iff] at taken
      exact absurd taken (ordered.ordered.find?_eq_none_iff.1 mounted)
    | some next =>
      refine ⟨next, rfl, fun path' label' => ?_⟩
      rw [version?, ordered.find?_add added]
      by_cases here : path' = path
      · rw [if_pos here, Option.bind_some, Table.find?_singleton, here, version?, mounted]
        simp
      · rw [if_neg here, if_neg fun both => here both.1, version?]
  | some application =>
    have versionsOrdered := (ordered.of_find? mounted).ordered
    rw [version?_of_find? mounted] at free
    cases inserted : application.versions.insert? label version with
    | none =>
      rw [versionsOrdered.insert?_eq_none_iff] at inserted
      exact absurd inserted (versionsOrdered.find?_eq_none_iff.1 free)
    | some versions =>
      refine ⟨mounts.modifyVersions path fun _ => versions, by simp only [inserted],
        fun path' label' => ?_⟩
      rw [ordered.version?_modifyVersions mounted]
      by_cases here : path' = path
      · rw [if_pos here, versionsOrdered.find?_insert? inserted, here, version?_of_find? mounted]
        simp
      · rw [if_neg here, if_neg fun both => here both.1]

/-- A place that is taken is left as it is. -/
theorem publish_taken (ordered : mounts.WellFormed) {existing : Version A W}
    (taken : mounts.version? path label = some existing) (version : Version A W) :
    Router.publish mounts path label version =
      (if existing.target = version.target then .unchanged else .rejected, mounts) := by
  obtain ⟨application, mounted, there⟩ := Option.bind_eq_some_iff.1 taken
  have versionsOrdered := (ordered.of_find? mounted).ordered
  have refused : application.versions.insert? label version = none := by
    rw [versionsOrdered.insert?_eq_none_iff]
    exact Table.mem_names_of_mem (versionsOrdered.find?_eq_some_iff.1 there)
  unfold Router.publish
  simp only [mounted, refused, there]
  split <;> rfl

/-- What has been added was free, and nothing else changed. -/
theorem of_publish_added (ordered : mounts.WellFormed) {published : Mounts A W}
    (done : Router.publish mounts path label version = (.added, published)) :
    mounts.version? path label = none ∧ ∀ path' label', published.version? path' label' =
      if path' = path ∧ label' = label then some version else mounts.version? path' label' := by
  cases there : mounts.version? path label with
  | some existing =>
    rw [ordered.publish_taken there] at done
    split at done <;> cases done
  | none =>
    obtain ⟨published', done', changed⟩ := ordered.publish_free there version
    obtain rfl : published' = published := congrArg Prod.snd (done'.symm.trans done)
    exact ⟨rfl, changed⟩

omit [DecidableEq A] in
/-- An application leaves with its last version, and no other version leaves. -/
theorem version?_withdraw (ordered : mounts.WellFormed)
    (mounted : mounts.find? path = some application) {remaining : Table (Version A W)}
    (erased : application.versions.erase? label = some remaining) (path' label' : String) :
    (if remaining.isEmpty then (mounts.remove? path).getD mounts
      else mounts.modifyVersions path fun _ => remaining).version? path' label' =
      if path' = path ∧ label' = label then none else mounts.version? path' label' := by
  have versionsOrdered := (ordered.of_find? mounted).ordered
  have left := versionsOrdered.find?_erase? erased label'
  split
  · rename_i gone
    have named : path ∈ mounts.applications.names :=
      Table.mem_names_of_mem (ordered.ordered.find?_eq_some_iff.1 mounted)
    cases removed : mounts.remove? path with
    | none =>
      have missing := Option.map_eq_none_iff.1 removed
      rw [ordered.ordered.erase?_eq_none_iff] at missing
      exact absurd named missing
    | some next =>
      rw [Option.getD_some, version?, ordered.find?_remove removed]
      by_cases here : path' = path
      · rw [if_pos here, here, version?_of_find? mounted]
        have nothing : remaining.find? label' = none := by
          rw [(versionsOrdered.erase? erased).find?_eq_none_iff, Table.names,
            Table.isEmpty_iff.1 gone]
          exact List.not_mem_nil
        rw [nothing] at left
        by_cases there : label' = label
        · simp [there]
        · rw [if_neg there] at left
          simp [there, ← left]
      · rw [if_neg here, if_neg fun both => here both.1, version?]
  · rw [ordered.version?_modifyVersions mounted]
    by_cases here : path' = path
    · rw [if_pos here, left, here, version?_of_find? mounted]
      simp
    · rw [if_neg here, if_neg fun both => here both.1]

end VirtualHosting.Mounts.WellFormed
