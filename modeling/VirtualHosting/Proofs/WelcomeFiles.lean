/-
# Proofs.WelcomeFiles — how often a welcome file is listed

Welcome files come to a version from two sides. A call adds one only if it is a
relative name that is not listed yet. A deployment brings a whole list, and nobody
looks at it. So a list stays as tidy as the one it began with, and no tidier: a name is
listed twice if the deployment listed it twice, and then removing it does not remove it.

* `Version.Bounded.revised`: no call lists a name again;
* `Tidy.of_bounded`: a tidy list stays tidy;
* `Sound.removeWelcomeFile_listed`: removing takes one occurrence;
* `welcome_files_bounded`: the list of any version after any run, and what removing
  from it leaves.
-/
import VirtualHosting.Proofs.Provenance
import VirtualHosting.Proofs.Slice

namespace VirtualHosting

set_option autoImplicit false

variable {H A W : Type}

/-! ## Lists of names -/

/-- No name is listed twice, none is empty and none starts with a slash. -/
structure Tidy (names : List String) : Prop where
  nodup : names.Nodup
  relative : ∀ name ∈ names, name ≠ "" ∧ ¬ ∃ rest, name = "/" ++ rest

theorem isWelcomeName_iff {name : String} :
    Router.isWelcomeName name = true ↔ name ≠ "" ∧ ¬ ∃ rest, name = "/" ++ rest := by
  rw [Router.isWelcomeName, Bool.and_eq_true, bne_iff_ne, Bool.not_eq_true',
    ← Text.startsWith_eq_true_iff, Bool.not_eq_true]

/-- How often a list may hold a name where `brought` is the list it began with. -/
def welcomeBound (brought : List String) (name : String) : Nat :=
  max (brought.count name) (if Router.isWelcomeName name then 1 else 0)

namespace Version

/-- No welcome file is listed more often than in the list it began with, or more than
once if it is a relative name. -/
def Bounded (brought : List String) (v : Version A W) : Prop :=
  ∀ name, v.settings.welcomeFiles.count name ≤ welcomeBound brought name

variable {brought : List String} {v : Version A W}

/-- A tidy list stays tidy. -/
theorem Bounded.tidy (bounded : v.Bounded brought) (tidy : Tidy brought) :
    Tidy v.settings.welcomeFiles where
  nodup := by
    rw [List.nodup_iff_count_le_one]
    intro name
    have most := bounded name
    have once := List.nodup_iff_count_le_one.1 tidy.nodup name
    unfold welcomeBound at most
    split at most <;> omega
  relative name listed := by
    have some_listed := List.count_pos_iff.2 listed
    have most := bounded name
    by_cases there : name ∈ brought
    · exact tidy.relative name there
    · have missing := List.count_eq_zero.2 there
      unfold welcomeBound at most
      split at most
      · rename_i fit
        exact isWelcomeName_iff.1 fit
      · omega

/-- A welcome file that is listed twice was listed twice at the beginning. -/
theorem Bounded.twice (bounded : v.Bounded brought) {name : String}
    (twice : 1 < v.settings.welcomeFiles.count name) : 1 < brought.count name := by
  have most := bounded name
  unfold welcomeBound at most
  split at most <;> omega

/-- No call lists a name that is listed, or one that is not relative. -/
theorem Bounded.revised [DecidableEq A] (bounded : v.Bounded brought) (call : Call H A W) :
    (v.revised call).Bounded brought := by
  cases call with
  | pause place target =>
    show Bounded brought (if v.target = target then v.pause else v)
    split <;> exact bounded
  | addHandler place pattern target flags =>
    unfold Version.revised
    dsimp only
    cases Pattern.parse pattern <;> exact bounded
  | removeHandler place pattern =>
    unfold Version.revised
    dsimp only
    cases Pattern.parse pattern <;> exact bounded
  | addWelcomeFile place name =>
    show Bounded brought (if Router.isWelcomeName name = true ∧ name ∉ v.settings.welcomeFiles
      then v.addWelcome name else v)
    split
    · rename_i added
      obtain ⟨fit, fresh⟩ := added
      intro other
      rw [welcomeFiles_addWelcome, List.count_append, List.count_singleton]
      by_cases same : name = other
      · subst same
        rw [List.count_eq_zero.2 fresh, welcomeBound, fit]
        simp
      · have most := bounded other
        simpa [same] using most
    · exact bounded
  | removeWelcomeFile place name =>
    intro other
    exact (List.erase_sublist.count_le other).trans (bounded other)
  | clearWelcomeFiles place =>
    intro other
    exact Nat.zero_le _
  | setDefaultHost | addHost | removeHost | addAlias | removeAlias | deploy | undeploy =>
    exact bounded

end Version

namespace Router

/-! ## Removing -/

variable {r : Router H A W} {place : Coordinates} {version : Version A W}

theorem removeWelcomeFile_eq {name : String} (deployed : r.find place = .ok version) :
    (r.removeWelcomeFile place name).1 = .ok (decide (name ∈ version.settings.welcomeFiles)) := by
  unfold removeWelcomeFile
  rw [deployed]
  by_cases listed : name ∈ version.settings.welcomeFiles <;> simp [listed]

/-- A name that is listed is removed once. -/
theorem Sound.removeWelcomeFile_listed (sound : r.Sound) (deployed : r.find place = .ok version)
    {name : String} (listed : name ∈ version.settings.welcomeFiles) :
    ∃ next, r.removeWelcomeFile place name = (.ok true, next) ∧
      next.find place = .ok (version.removeWelcome name) := by
  refine ⟨r.modifyVersion place (·.removeWelcome name), ?_, ?_⟩
  · unfold removeWelcomeFile
    simp only [deployed, listed, if_true]
  · exact find_modifyVersion sound.wellFormed deployed _

/-! ## Any run -/

variable [DecidableEq H] [DecidableEq A] [DecidableEq W]

/-- **The welcome files of a version are those of its deployment, but for names that
calls have added once.** A name that stays listed when it is removed was listed twice by
the deployment. -/
theorem welcome_files_bounded (calls : List (Call H A W))
    (deployed : (runAll empty calls).find place = .ok version) :
    ∃ p : Placement H A W, p.toCall ∈ calls ∧ p.place = stored place ∧
      (∀ name, version.settings.welcomeFiles.count name ≤
        max (p.deployment.settings.welcomeFiles.count name) (if isWelcomeName name then 1 else 0)) ∧
      (Tidy p.deployment.settings.welcomeFiles → Tidy version.settings.welcomeFiles) ∧
      ∀ name ∈ version.settings.welcomeFiles, ∃ next left,
        (runAll empty calls).removeWelcomeFile place name = (.ok true, next) ∧
        next.find place = .ok left ∧
        left.settings.welcomeFiles = version.settings.welcomeFiles.erase name ∧
        (next.removeWelcomeFile place name).1 =
          .ok (decide (name ∈ left.settings.welcomeFiles)) ∧
        (name ∈ left.settings.welcomeFiles →
          1 < p.deployment.settings.welcomeFiles.count name) := by
  obtain ⟨before, after, p, original, rfl, here, offered, rfl⟩ :=
    exists_deployment calls (find_eq_ok_iff.1 deployed)
  obtain ⟨handlers, _, rfl⟩ := Placement.offered_eq_some_iff.1 offered
  have start : (p.deployment.publication handlers).Bounded p.deployment.settings.welcomeFiles :=
    fun name => Nat.le_max_left _ _
  have bounded := Version.foldl_revisedAt (I := Version.Bounded p.deployment.settings.welcomeFiles)
    (fun _ call kept => kept.revised call) (stored place) after start
  refine ⟨p, by simp, here, bounded, bounded.tidy, fun name listed => ?_⟩
  obtain ⟨next, removed, left⟩ :=
    (sound_empty.runAll _).removeWelcomeFile_listed deployed listed
  refine ⟨next, _, removed, left, rfl, removeWelcomeFile_eq left, fun still => ?_⟩
  apply bounded.twice
  have remain := List.count_pos_iff.2 still
  rw [Version.removeWelcome, Version.withWelcomeFiles, List.count_erase_self] at remain
  omega

/-- A page that is deployed with one welcome file, and a call that adds another. -/
def welcoming : List (Call Nat Nat Nat) :=
  [.deploy "h" 0 { path := "/a", target := 1, settings := { welcomeFiles := ["index.html"] } },
    .addWelcomeFile ⟨"h", "/a", ""⟩ "home.html"]

/-- Both are listed, in a tidy list, and the first is gone once it is removed. -/
theorem welcome_files_bounded_welcoming :
    ∃ version next left, (runAll empty welcoming).find ⟨"h", "/a", ""⟩ = .ok version ∧
      Tidy version.settings.welcomeFiles ∧
      (runAll empty welcoming).removeWelcomeFile ⟨"h", "/a", ""⟩ "index.html" =
        (.ok true, next) ∧
      next.find ⟨"h", "/a", ""⟩ = .ok left ∧ left.settings.welcomeFiles = ["home.html"] ∧
      (next.removeWelcomeFile ⟨"h", "/a", ""⟩ "index.html").1 = .ok false := by
  have listed : ((runAll empty welcoming).version? (stored ⟨"h", "/a", ""⟩)).any (fun version =>
      decide (version.settings.welcomeFiles = ["index.html", "home.html"])) = true := by
    decide +kernel
  obtain ⟨version, found, files⟩ := (Option.any_eq_true _ _).1 listed
  have files := of_decide_eq_true files
  have deployed := find_eq_ok_iff.2 found
  obtain ⟨p, called, _, _, tidy, removal⟩ := welcome_files_bounded welcoming deployed
  have brought : p.deployment.settings.welcomeFiles = ["index.html"] := by
    rcases List.mem_cons.1 called with same | later
    · rw [(Call.deploy.inj same).2.2]
    · cases List.mem_singleton.1 later
  have fit : isWelcomeName "index.html" = true := by decide +kernel
  have single : Tidy ["index.html"] :=
    ⟨List.nodup_singleton _, by simpa using isWelcomeName_iff.1 fit⟩
  obtain ⟨next, left, removed, there, remaining, again, _⟩ := removal "index.html" (by simp [files])
  rw [files] at remaining
  refine ⟨version, next, left, deployed, tidy (brought ▸ single), removed, there, remaining, ?_⟩
  rw [again, remaining]
  rfl

/-- A deployment that lists a welcome file twice. -/
def twiceWelcoming : Router Nat Nat Nat :=
  runAll empty [.deploy "h" 0 { path := "/a", target := 1, settings :=
    { welcomeFiles := ["index.html", "index.html"] } }]

/-- The list has a duplicate, and removing the name twice succeeds twice. -/
theorem welcome_file_removed_twice :
    twiceWelcoming.Reachable ∧
      (twiceWelcoming.find ⟨"h", "/a", ""⟩).toOption.any (fun version =>
        decide (¬ version.settings.welcomeFiles.Nodup)) = true ∧
      (twiceWelcoming.removeWelcomeFile ⟨"h", "/a", ""⟩ "index.html").1 = .ok true ∧
      ((twiceWelcoming.removeWelcomeFile ⟨"h", "/a", ""⟩ "index.html").2.removeWelcomeFile
        ⟨"h", "/a", ""⟩ "index.html").1 = .ok true :=
  ⟨⟨_, rfl⟩, by decide +kernel, by decide +kernel, by decide +kernel⟩

end Router

end VirtualHosting
