/-
# Proofs.LoneHandlers — what one handler by itself is reached by

The patterns that are accepted and the paths that are matched are written down in two
places. A pattern is alive if the two agree: where its handler is the only one, some
request is led to it. An exact path is its own request, a wildcard is reached by its
directory, the fallback by anything. Of an extension the matcher wants what follows the
last dot of a file name, and so there is no dot in it. A pattern such as `*.tar.gz` is
accepted all the same, is stored under `tar.gz`, and is looked up by nobody.

* `Version.Lone`: one handler, and nothing else that could answer;
* `Pattern.IsFor`, `Version.Lone.chooses_iff`: the paths that a pattern leads to;
* `Pattern.Undotted`, `Pattern.isFor_sample`: a path for every pattern but a dotted one;
* `lone_handler_reached`: which of the accepted patterns are alive.
-/
import VirtualHosting.Proofs.Batches
import VirtualHosting.Proofs.Fallback
import VirtualHosting.Proofs.Written

namespace VirtualHosting

set_option autoImplicit false

variable {H A W : Type}

/-! ## Patterns and paths -/

namespace Pattern

variable {written : String} {p : Pattern} {rel : String}

/-- The paths below the mount that a pattern is for, as its shape says. -/
def IsFor : Pattern → String → Prop
  | root, rel => rel = "/"
  | fallback, _ => True
  | wildcard lead, rel => Slash.Reaches lead rel
  | extension suffix, rel =>
    ∃ front stem : String, rel = front ++ "/" ++ stem ++ "." ++ suffix ∧
      '/' ∉ stem.toList ∧ '/' ∉ suffix.toList ∧ '.' ∉ suffix.toList
  | exact path, rel => rel = path

/-- An extension without a dot, or no extension. -/
def Undotted (p : Pattern) : Prop :=
  ∀ suffix, p = .extension suffix → '.' ∉ suffix.toList

/-- A path for a pattern. -/
def sample : Pattern → String
  | root | fallback => "/"
  | wildcard lead => lead ++ "/"
  | extension suffix => "/." ++ suffix
  | exact path => path

theorem isFor_sample (read : parse written = .ok p) (undotted : p.Undotted) : p.IsFor p.sample := by
  cases p with
  | root => rfl
  | fallback => trivial
  | wildcard lead => exact .inr (.inr ⟨"", String.append_empty.symm⟩)
  | extension suffix =>
    refine ⟨"", "", ?_, by simp, plain_of_extension read, undotted suffix rfl⟩
    apply String.toList_inj.1
    simp [sample]
  | exact path => rfl

theorem slash_of_sample (read : parse written = .ok p) : ∃ rest, p.sample = "/" ++ rest := by
  cases p with
  | root | fallback => exact ⟨"", rfl⟩
  | wildcard lead =>
    rcases slash_of_wildcard read with rfl | ⟨rest, rfl⟩
    · exact ⟨"", rfl⟩
    · exact ⟨rest ++ "/", String.append_assoc ..⟩
  | extension suffix =>
    refine ⟨"." ++ suffix, ?_⟩
    apply String.toList_inj.1
    simp [sample]
  | exact path => exact slash_of_exact read

/-- No path is for an extension with a dot in it. -/
theorem not_isFor_of_dotted {suffix : String} (dotted : '.' ∈ suffix.toList) :
    ¬ (extension suffix).IsFor rel := by
  rintro ⟨_, _, _, _, _, undotted⟩
  exact undotted dotted

end Pattern

/-! ## One handler -/

/-- The version's own selection leads the request to this target. -/
def Version.Chooses (v : Version A W) (uri : String) (target : W) : Prop :=
  ∃ choice, (v.select uri).value = .handler choice ∧ choice.handler = target

theorem Version.chooses_iff_outcome {v : Version A W} {uri : String} {target : W} :
    v.Chooses uri target ↔ ((v.select uri).value.outcome uri).handler = some target := by
  unfold Chooses
  cases (v.select uri).value with
  | none => simp [Selection.outcome, Outcome.unmatched]
  | redirect => simp [Selection.outcome, Outcome.redirected]
  | handler choice => simp [Selection.outcome, Choice.outcome]

/-- The handler of `p` is the only one of the version, and there is neither a welcome
file nor a resource. -/
structure Version.Lone (v : Version A W) (p : Pattern) (target : W) : Prop where
  ordered : v.handlers.WellFormed
  found : ∀ q, v.handlers.find? q = if q.slot = p.slot then some ⟨target, {}⟩ else none
  unwelcoming : v.settings.welcomeFiles = []
  unprobed : v.settings.resources = none

namespace Version.Lone

variable {v : Version A W} {p : Pattern} {target : W} {rel : String} {h : Handler W} {o : Outcome W}

theorem find?_eq_some_iff (lone : v.Lone p target) {q : Pattern} :
    v.handlers.find? q = some h ↔ q.slot = p.slot ∧ h = ⟨target, {}⟩ := by
  rw [lone.found]
  by_cases here : q.slot = p.slot <;> simp [here, eq_comm]

/-- What the tables hold is this handler, for a path that the pattern is for. -/
theorem of_exactAt (lone : v.Lone p target) (there : v.handlers.ExactAt rel h) :
    p.IsFor rel ∧ h = ⟨target, {}⟩ := by
  have held : v.handlers.find? (.exact rel) = some h :=
    lone.ordered.exact_ordered.find?_eq_some_iff.2 there
  obtain ⟨same, only⟩ := lone.find?_eq_some_iff.1 held
  refine ⟨?_, only⟩
  cases p with
  | root | exact => exact Pattern.exact.inj same
  | fallback | wildcard | extension => cases same

theorem of_wildcardAt (lone : v.Lone p target) (there : v.handlers.WildcardAt rel h) :
    p.IsFor rel ∧ h = ⟨target, {}⟩ := by
  obtain ⟨name, best⟩ := there
  have held : v.handlers.find? (.wildcard name) = some h :=
    lone.ordered.wildcard_ordered.find?_eq_some_iff.2 best.mem
  obtain ⟨same, only⟩ := lone.find?_eq_some_iff.1 held
  refine ⟨?_, only⟩
  cases p with
  | wildcard lead =>
    obtain rfl := Pattern.wildcard.inj same
    exact best.reaches
  | root | fallback | exact | extension => cases same

theorem of_extensionAt (lone : v.Lone p target) (there : v.handlers.ExtensionAt rel h) :
    p.IsFor rel ∧ h = ⟨target, {}⟩ := by
  obtain ⟨front, stem, suffix, split, plain, plain', undotted, stored⟩ := there
  have held : v.handlers.find? (.extension suffix) = some h :=
    lone.ordered.extension_ordered.find?_eq_some_iff.2 stored
  obtain ⟨same, only⟩ := lone.find?_eq_some_iff.1 held
  refine ⟨?_, only⟩
  cases p with
  | extension suffix' =>
    obtain rfl := Pattern.extension.inj same
    exact ⟨front, stem, split, plain, plain', undotted⟩
  | root | fallback | exact | wildcard => cases same

theorem of_fallback (lone : v.Lone p target) (there : v.handlers.fallback = some h) :
    p.IsFor rel ∧ h = ⟨target, {}⟩ := by
  have held : v.handlers.find? .fallback = some h := there
  obtain ⟨same, only⟩ := lone.find?_eq_some_iff.1 held
  refine ⟨?_, only⟩
  cases p with
  | fallback => trivial
  | root | exact | wildcard | extension => cases same

/-- The handler is no template, so it never stands back. -/
theorem not_deferred (lone : v.Lone p target) : ¬ v.Deferred rel := by
  rintro ⟨h, there, template, _⟩
  obtain ⟨_, rfl⟩ := lone.of_wildcardAt there
  cases template

/-- What a path is answered with is this handler, if it is any. Only the bare mount
path may be redirected. -/
theorem answer (lone : v.Lone p target) (given : v.Precedence rel o) :
    (p.IsFor rel ∧ o.handler = some target) ∨
      (o.handler = none ∧ (rel ≠ "" → o.redirect = none)) := by
  refine FirstOf.of_forall (P := fun o => (p.IsFor rel ∧ o.handler = some target) ∨
    (o.handler = none ∧ (rel ≠ "" → o.redirect = none))) ?_ given
  intro rule listed o gives
  simp only [List.mem_cons, List.not_mem_nil, or_false] at listed
  rcases listed with rfl | rfl | rfl | rfl | rfl | rfl | rfl | rfl
  · obtain ⟨h, there, rfl⟩ := gives
    obtain ⟨meant, rfl⟩ := lone.of_exactAt there
    exact .inl ⟨meant, rfl⟩
  · obtain ⟨h, ⟨there, _⟩, rfl⟩ := gives
    obtain ⟨meant, rfl⟩ := lone.of_wildcardAt there
    exact .inl ⟨meant, rfl⟩
  · obtain ⟨⟨bare, _⟩, rfl⟩ := gives
    exact .inr ⟨rfl, fun named => absurd bare named⟩
  · obtain ⟨_, h, there, rfl⟩ := gives
    obtain ⟨meant, rfl⟩ := lone.of_extensionAt there
    exact .inl ⟨meant, rfl⟩
  · -- there is no welcome file
    have welcome := gives.2
    rw [Welcome, lone.unwelcoming] at welcome
    obtain ⟨passes, listed, _, pass⟩ := exists_firstOf_iff.1 ⟨o, welcome⟩
    simp only [List.map_nil, List.mem_cons, List.not_mem_nil, or_false, or_self] at listed
    exact absurd (listed ▸ pass) not_firstOf_nil
  · obtain ⟨⟨_, _, _, probe, resources, _⟩, _⟩ := gives
    rw [lone.unprobed] at resources
    cases resources
  · obtain ⟨_, h, there, rfl⟩ := gives
    obtain ⟨meant, rfl⟩ := lone.of_fallback there
    exact .inl ⟨meant, rfl⟩
  · rw [show o = .unmatched from gives]
    exact .inr ⟨rfl, fun _ => rfl⟩

/-- A path that the pattern is for is not passed over. -/
theorem not_silent (lone : v.Lone p target) (meant : p.IsFor rel) : ¬ v.Silent rel := by
  intro silent
  have held : v.handlers.find? p = some ⟨target, {}⟩ := lone.find?_eq_some_iff.2 ⟨rfl, rfl⟩
  cases p with
  | root | exact path =>
    obtain rfl := meant
    exact silent.no_exact _ (lone.ordered.exact_ordered.find?_eq_some_iff.1 held)
  | fallback =>
    cases (silent.no_fallback lone.not_deferred).symm.trans held
  | wildcard lead =>
    have stored := lone.ordered.wildcard_ordered.find?_eq_some_iff.1 held
    obtain ⟨⟨name, h⟩, best⟩ :=
      Table.exists_mostSpecific (Table.mem_names_of_mem stored) meant
    obtain ⟨_, rfl⟩ := lone.of_wildcardAt ⟨name, best⟩
    cases (silent.stands_back _ ⟨name, best⟩).1
  | extension suffix =>
    obtain ⟨front, stem, split, plain, plain', undotted⟩ := meant
    have stored := lone.ordered.extension_ordered.find?_eq_some_iff.1 held
    exact silent.no_extension lone.not_deferred _
      ⟨front, stem, suffix, split, plain, plain', undotted, stored⟩

/-- A handler that is chosen for a path has a pattern for it. -/
theorem isFor_of_chooses (lone : v.Lone p target) (chosen : v.Chooses (v.path ++ rel) target) :
    p.IsFor rel := by
  have given := (precedence_iff lone.ordered rel _).2 rfl
  rw [chooses_iff_outcome] at chosen
  rcases lone.answer given with ⟨meant, _⟩ | ⟨nothing, _⟩
  · exact meant
  · cases nothing.symm.trans chosen

/-- **Below its mount the handler is chosen for the paths that its pattern is for.** -/
theorem chooses_iff (lone : v.Lone p target) (named : rel ≠ "") :
    v.Chooses (v.path ++ rel) target ↔ p.IsFor rel := by
  constructor
  · exact lone.isFor_of_chooses
  · intro meant
    have given := (precedence_iff lone.ordered rel _).2 rfl
    rw [chooses_iff_outcome]
    rcases lone.answer given with ⟨_, chosen⟩ | ⟨nothing, bare⟩
    · exact chosen
    · have silent := (precedence_unanswered given).1 ⟨nothing, bare named⟩
      exact absurd silent (lone.not_silent meant)

/-- **Some request leads to the handler unless its pattern is a dotted extension.** -/
theorem reached_iff (lone : v.Lone p target) {written : String}
    (read : Pattern.parse written = .ok p) :
    (∃ uri, Slash.Reaches v.path uri ∧ v.Chooses uri target) ↔ p.Undotted := by
  constructor
  · rintro ⟨uri, below, chosen⟩ suffix rfl dotted
    obtain ⟨rel, split⟩ := below.isPrefix
    obtain rfl : uri = v.path ++ String.ofList rel := by
      apply String.toList_inj.1
      simp [← split]
    exact Pattern.not_isFor_of_dotted dotted (lone.isFor_of_chooses chosen)
  · intro undotted
    obtain ⟨rest, slash⟩ := Pattern.slash_of_sample read
    have named : p.sample ≠ "" := by
      intro empty
      have letters := congrArg String.toList (slash.symm.trans empty)
      simp at letters
    refine ⟨v.path ++ p.sample, ?_, (lone.chooses_iff named).2 (Pattern.isFor_sample read undotted)⟩
    refine .inr (.inr ⟨rest, ?_⟩)
    rw [slash, String.append_assoc]

end Version.Lone

/-! ## Versions with one handler -/

/-- What is published with one handler has no other. -/
theorem Deployment.lone_publication {deployment : Deployment A W} (p : Pattern) (target : W)
    (unwelcoming : deployment.settings.welcomeFiles = [])
    (unprobed : deployment.settings.resources = none) :
    (deployment.publication (HandlerSet.empty.put p ⟨target, {}⟩)).Lone p target where
  ordered := HandlerSet.wellFormed_empty.put p _
  found q := by
    rw [publication, HandlerSet.wellFormed_empty.find?_put, HandlerSet.find?_empty,
      HandlerSet.find?_empty, Option.none_or]
  unwelcoming := unwelcoming
  unprobed := unprobed

namespace Router

variable [DecidableEq H] [DecidableEq A] [DecidableEq W] {r : Router H A W}
  {placement : Placement H A W} {written : String} {p : Pattern} {target : W}

/-- A version that is added with one handler is there with it alone. -/
theorem Sound.lone_of_added (sound : r.Sound) (read : Pattern.parse written = .ok p)
    (listed : placement.deployment.handlers = [⟨written, target, {}⟩])
    (unwelcoming : placement.deployment.settings.welcomeFiles = [])
    (unprobed : placement.deployment.settings.resources = none)
    (added : (r.run placement.toCall).value.1 = .registration .added) :
    ∃ version, (r.after placement.toCall).version? placement.place = some version ∧
      version.path = placement.deployment.path ∧ version.paused = false ∧
      version.Lone p target := by
  have gathered : placement.handlers = .ok (HandlerSet.empty.put p ⟨target, {}⟩) := by
    rw [Placement.handlers, listed]
    exact value_gather_put read
  obtain ⟨grown, free, filled, _⟩ := sound.fills_of_added gathered added
  refine ⟨_, ?_, rfl, rfl, Deployment.lone_publication p target unwelcoming unprobed⟩
  rw [filled.version?, if_pos rfl, free, Option.none_or]

/-- **Every accepted pattern is alive but a dotted extension.** Where the handler of a
pattern is the only one, without welcome files or resources, some request below the
mount leads to it exactly if the pattern is no extension with a dot in it. So it is of
every version that is deployed with this handler alone, wherever it is deployed. -/
theorem lone_handler_reached (read : Pattern.parse written = .ok p) :
    (∀ (version : Version A W) (target : W), version.Lone p target →
      ((∃ uri, Slash.Reaches version.path uri ∧ version.Chooses uri target) ↔ p.Undotted)) ∧
    ∀ (r : Router H A W) (placement : Placement H A W) (target : W), r.Reachable →
      placement.deployment.handlers = [⟨written, target, {}⟩] →
      placement.deployment.settings.welcomeFiles = [] →
      placement.deployment.settings.resources = none →
      (r.run placement.toCall).value.1 = .registration .added →
      ∃ version, (r.after placement.toCall).version? placement.place = some version ∧
        version.path = placement.deployment.path ∧ version.paused = false ∧
        version.Lone p target := by
  constructor
  · intro version target lone
    exact lone.reached_iff read
  · intro r placement target reachable listed unwelcoming unprobed added
    exact reachable.sound.lone_of_added read listed unwelcoming unprobed added

/-- An application with one handler. -/
def onePattern (written : String) : Placement Nat Nat Nat :=
  ⟨"h", 0, { path := "/app", target := 1, handlers := [⟨written, 7, {}⟩] }⟩

theorem lone_handler_reached_gz :
    ∃ version, ((empty : Router Nat Nat Nat).after (onePattern "*.gz").toCall).version?
        ⟨"h", "/app", ""⟩ = some version ∧
      ∃ uri, Slash.Reaches "/app" uri ∧ version.Chooses uri 7 := by
  have read : Pattern.parse "*.gz" = .ok (.extension "gz") := by decide +kernel
  have place : (onePattern "*.gz").place = ⟨"h", "/app", ""⟩ := by decide +kernel
  obtain ⟨reached, deployed⟩ := lone_handler_reached (H := Nat) (A := Nat) (W := Nat) read
  obtain ⟨version, there, mount, _, lone⟩ :=
    deployed .empty (onePattern "*.gz") 7 reachable_empty rfl rfl rfl (by decide +kernel)
  have undotted : Pattern.Undotted (.extension "gz") := by
    rintro _ ⟨⟩
    decide
  rw [place] at there
  refine ⟨version, there, ?_⟩
  obtain ⟨uri, below, chosen⟩ := (reached version 7 lone).2 undotted
  rw [mount] at below
  exact ⟨uri, below, chosen⟩

/-- The pattern `*.tar.gz` is accepted and its handler is there, and no request leads to
it. -/
theorem dotted_extension_dead :
    Pattern.parse "*.tar.gz" = .ok (.extension "tar.gz") ∧
      ∃ version, ((empty : Router Nat Nat Nat).after (onePattern "*.tar.gz").toCall).version?
          ⟨"h", "/app", ""⟩ = some version ∧
        version.Lone (.extension "tar.gz") 7 ∧
        ¬ ∃ uri, Slash.Reaches version.path uri ∧ version.Chooses uri 7 := by
  have read : Pattern.parse "*.tar.gz" = .ok (.extension "tar.gz") := by decide +kernel
  have place : (onePattern "*.tar.gz").place = ⟨"h", "/app", ""⟩ := by decide +kernel
  have added : ((empty : Router Nat Nat Nat).run (onePattern "*.tar.gz").toCall).value.1 =
      .registration .added := by decide +kernel
  obtain ⟨version, there, _, _, lone⟩ := sound_empty.lone_of_added read rfl rfl rfl added
  rw [place] at there
  refine ⟨read, version, there, lone, fun reached => ?_⟩
  exact (lone.reached_iff read).1 reached "tar.gz" rfl (by decide)

end Router

end VirtualHosting
