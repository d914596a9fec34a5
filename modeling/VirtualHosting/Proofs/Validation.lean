/-
# Proofs.Validation — what an accepted descriptor is like

Validation lists what is wrong, so a descriptor is accepted when nothing is on the
list. Each check is read back here: an empty list says that no name and no version
is repeated, that every pattern can be read and that the default host exists.
`Deployable` collects what deploying relies on.

* `repeated_eq_nil_iff`: nothing is repeated in a list without duplicates;
* `deployable_of_validate`: what is accepted can be deployed.
-/
import VirtualHosting.Descriptor.Validation

namespace VirtualHosting.Descriptor

set_option autoImplicit false

/-- Nothing is reported twice if no key occurs twice, nor earlier. -/
theorem repeated_eq_nil_iff {α β : Type} [DecidableEq β] {key : α → β} {seen : List β}
    {items : List α} :
    repeated key seen items = [] ↔ (items.map key).Nodup ∧ ∀ a ∈ items, key a ∉ seen := by
  induction items generalizing seen with
  | nil => simp [repeated]
  | cons a rest ih =>
    rw [repeated, List.map_cons, List.nodup_cons, List.forall_mem_cons]
    split
    · rename_i earlier
      simp [earlier]
    · rename_i fresh
      have later : (∀ b ∈ rest, key b ∉ key a :: seen) ↔
          key a ∉ rest.map key ∧ ∀ b ∈ rest, key b ∉ seen := by
        simp only [List.mem_cons, not_or, List.mem_map, not_exists, not_and]
        exact ⟨fun all => ⟨fun b mem => (all b mem).1, fun b mem => (all b mem).2⟩,
          fun both b mem => ⟨both.1 b mem, both.2 b mem⟩⟩
      rw [ih, later]
      exact ⟨fun ⟨distinct, once, unseen⟩ => ⟨⟨once, distinct⟩, fresh, unseen⟩,
        fun ⟨⟨once, distinct⟩, _, unseen⟩ => ⟨distinct, once, unseen⟩⟩

/-- The patterns of an application without problems can be read. -/
theorem parse_of_contentProblems {app : ApplicationSpec} (accepted : contentProblems app = []) :
    ∀ handler ∈ app.handlers, ∀ pattern ∈ handler.patterns, ∃ p, Pattern.parse pattern = .ok p := by
  intro handler mem pattern written
  have fine : handlerProblems app.path handler = [] :=
    List.flatMap_eq_nil_iff.1 (List.append_eq_nil_iff.1 accepted).1 handler mem
  have silent := List.filterMap_eq_nil_iff.1 (List.append_eq_nil_iff.1 fine).2 pattern written
  cases read : Pattern.parse pattern with
  | ok p => exact ⟨p, rfl⟩
  | error fault =>
    rw [read] at silent
    cases silent

/-- What tells the versions of one host apart. -/
def versionKey (app : ApplicationSpec) : String × String :=
  (app.path, app.version)

theorem nodup_of_applicationProblems {host : String} {seen : List (String × String)}
    {apps : List ApplicationSpec} (accepted : applicationProblems host seen apps = []) :
    (apps.map versionKey).Nodup ∧ (∀ app ∈ apps, versionKey app ∉ seen) ∧
      ∀ app ∈ apps, contentProblems app = [] := by
  induction apps generalizing seen with
  | nil => simp
  | cons app rest ih =>
    simp only [applicationProblems, List.append_eq_nil_iff] at accepted
    obtain ⟨⟨⟨_, once⟩, content⟩, others⟩ := accepted
    obtain ⟨distinct, later, contents⟩ := ih others
    have fresh : versionKey app ∉ seen := by
      intro earlier
      have reported : (app.path, app.version) ∈ seen := earlier
      rw [if_pos reported] at once
      cases once
    have apart : versionKey app ∉ rest.map versionKey := by
      intro again
      obtain ⟨other, mem, same⟩ := List.mem_map.1 again
      exact later other mem (same ▸ List.mem_cons_self)
    refine ⟨List.nodup_cons.2 ⟨apart, distinct⟩, List.forall_mem_cons.2 ⟨fresh, ?_⟩,
      List.forall_mem_cons.2 ⟨content, contents⟩⟩
    exact fun other mem earlier => later other mem (List.mem_cons_of_mem _ earlier)

/-- The stored names of a host and its aliases. -/
def storedNamesOf (host : HostSpec) : List String :=
  (namesOf host).map normalizeHostName

theorem nodup_of_hostProblems {seen : List String} {hosts : List HostSpec}
    (accepted : hostProblems seen hosts = []) :
    (hosts.flatMap storedNamesOf).Nodup ∧ (∀ name ∈ hosts.flatMap storedNamesOf, name ∉ seen) ∧
      ∀ host ∈ hosts, applicationProblems host.name [] host.applications = [] := by
  induction hosts generalizing seen with
  | nil => simp
  | cons host rest ih =>
    simp only [hostProblems, List.append_eq_nil_iff, List.map_eq_nil_iff] at accepted
    obtain ⟨⟨⟨_, once⟩, applications⟩, others⟩ := accepted
    obtain ⟨own, fresh⟩ := repeated_eq_nil_iff.1 once
    obtain ⟨distinct, later, deeper⟩ := ih others
    have unseen : ∀ name ∈ storedNamesOf host, name ∉ seen := List.forall_mem_map.2 fresh
    rw [List.flatMap_cons]
    refine ⟨List.nodup_append.2 ⟨own, distinct, ?_⟩, ?_,
      List.forall_mem_cons.2 ⟨applications, deeper⟩⟩
    · rintro name mem _ again rfl
      exact later name again (List.mem_append_left _ mem)
    · intro name mem
      rcases List.mem_append.1 mem with mem | mem
      · exact unseen name mem
      · exact fun earlier => later name mem (List.mem_append_right _ earlier)

/-- What deploying a descriptor relies on. -/
structure Deployable (d : Descriptor) : Prop where
  names : d.storedNames.Nodup
  versions : ∀ host ∈ d.hosts, (host.applications.map versionKey).Nodup
  patterns : ∀ host ∈ d.hosts, ∀ app ∈ host.applications, ∀ handler ∈ app.handlers,
    ∀ pattern ∈ handler.patterns, ∃ p, Pattern.parse pattern = .ok p
  defaultHost : ∀ name, d.defaultHost = some name → normalizeHostName name ∈ d.storedNames

/-- **What is accepted can be deployed.** -/
theorem deployable_of_validate {d : Descriptor} (accepted : validate d = []) : d.Deployable := by
  obtain ⟨hosts, default⟩ := List.append_eq_nil_iff.1 accepted
  obtain ⟨distinct, _, applications⟩ := nodup_of_hostProblems hosts
  have each {host : HostSpec} (mem : host ∈ d.hosts) :=
    nodup_of_applicationProblems (applications host mem)
  refine ⟨distinct, fun host mem => (each mem).1, fun host mem app deployed => ?_,
    fun name named => ?_⟩
  · exact parse_of_contentProblems ((each mem).2.2 app deployed)
  · rw [defaultHostProblems, named] at default
    dsimp only at default
    split at default
    · rename_i there
      exact there
    · cases default

end VirtualHosting.Descriptor
