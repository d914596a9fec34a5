/-
# Proofs.Violations — every violation is reported once, in the order of the document

Validation goes through a descriptor host by host and carries along what it has seen, so
that a name or a version that comes again is found. Here it is said without carrying
anything along which places of a descriptor break a rule: `Descriptor.Violates` has one
constructor for each rule, level by level, and a place is told by its address. Addresses
are compared from the left, and so in the order of the document: the hosts one after the
other and the default host, which depends on all of them, at the end; of a host its names
before its applications; of an application its path and version, then its handlers, then
its welcome files.

* `Reports.append`, `Reports.under`, `Reports.scan`: reports are put together from parts;
* `reports_handlerProblems`, `reports_problemsBehind`, `reports_problemsOf`,
  `reports_validate`: one level after the other;
* `acceptable_iff`: a descriptor without violations meets all conditions;
* `validate_exact`: what is reported, and what is accepted.
-/
import Mathlib.Data.List.Basic
import VirtualHosting.Proofs.Validation
import VirtualHosting.Proofs.Slice

namespace VirtualHosting

set_option autoImplicit false

/-! ## Rules -/

/-- Where something stands in a document: which part to turn to, and so on within it. -/
abbrev Address := List Nat

/-- A path at which something can be mounted. -/
def Mountable (path : String) : Prop :=
  path = "" ∨ (∃ rest, path = "/" ++ rest) ∧ ¬ ∃ front, path = front ++ "/"

/-- A handler has patterns, and all of them can be read. -/
inductive HandlerSpec.Violates (path : String) (handler : HandlerSpec) :
    Address → Descriptor.Problem → Prop where
  | bare (nothing : handler.patterns = []) :
      Violates path handler [0] (.noPatterns path handler.name)
  | unreadable {i : Nat} {pattern : String} {fault : Pattern.Fault}
      (listed : handler.patterns[i]? = some pattern)
      (malformed : Pattern.parse pattern = .error fault) :
      Violates path handler [1, i] (.invalidPattern path handler.name pattern fault)

/-- An application has a path to be mounted at, and a path and a version that no
application listed `before` it has; its welcome files are relative names. -/
inductive ApplicationSpec.Violates (host : String) (before : List ApplicationSpec)
    (app : ApplicationSpec) : Address → Descriptor.Problem → Prop where
  | unmountable (unfit : ¬ Mountable app.path) :
      Violates host before app [0] (.invalidApplicationPath host app.path)
  | repeated {other : ApplicationSpec} (earlier : other ∈ before) (path : other.path = app.path)
      (version : other.version = app.version) :
      Violates host before app [1] (.duplicateApplication host app.path app.version)
  | handler {i : Nat} {handler : HandlerSpec} {address : Address} {problem : Descriptor.Problem}
      (listed : app.handlers[i]? = some handler)
      (violated : handler.Violates app.path address problem) :
      Violates host before app (2 :: i :: address) problem
  | welcomeFile {i : Nat} {name : String} (listed : app.welcomeFiles[i]? = some name)
      (unfit : name = "" ∨ ∃ rest, name = "/" ++ rest) :
      Violates host before app [3, i] (.invalidWelcomeFile app.path name)

/-- A host name shows something, and no name of the host is stored as one of the names
`before` it. -/
inductive HostSpec.Violates (before : List String) (host : HostSpec) :
    Address → Descriptor.Problem → Prop where
  | blank (unseen : ∀ c ∈ host.name.toList, Text.isSpace c = true) :
      Violates before host [0] .emptyHostName
  | repeated {i : Nat} {name other : String} (listed : (Descriptor.namesOf host)[i]? = some name)
      (earlier : other ∈ before ++ (Descriptor.namesOf host).take i)
      (same : normalizeHostName other = normalizeHostName name) :
      Violates before host [1, i] (.duplicateHost name)
  | application {i : Nat} {app : ApplicationSpec} {address : Address}
      {problem : Descriptor.Problem} (listed : host.applications[i]? = some app)
      (violated : app.Violates host.name (host.applications.take i) address problem) :
      Violates before host (2 :: i :: address) problem

namespace Descriptor

/-- The place at an address breaks a rule, which makes this problem. -/
inductive Violates (d : Descriptor) : Address → Problem → Prop where
  | host {i : Nat} {host : HostSpec} {address : Address} {problem : Problem}
      (listed : d.hosts[i]? = some host)
      (violated : host.Violates ((d.hosts.take i).flatMap namesOf) address problem) :
      Violates d (0 :: i :: address) problem
  | defaultHost {name : String} (named : d.defaultHost = some name)
      (unknown : normalizeHostName name ∉ d.storedNames) :
      Violates d [1] (.unknownDefaultHost name)

/-! ## Reports -/

variable {α β : Type} {violates violates' : Address → Problem → Prop}
  {problems problems' : List Problem}

/-- The problems are those of the violations, one for each, in the order of the places. -/
def Reports (violates : Address → Problem → Prop) (problems : List Problem) : Prop :=
  ∃ report : List (Address × Problem), report.map Prod.snd = problems ∧
    (report.map Prod.fst).Pairwise (· < ·) ∧
    ∀ address problem, (address, problem) ∈ report ↔ violates address problem

theorem Reports.congr (reports : Reports violates problems)
    (same : ∀ address problem, violates address problem ↔ violates' address problem) :
    Reports violates' problems := by
  obtain ⟨report, written, ascending, complete⟩ := reports
  exact ⟨report, written, ascending, fun address problem =>
    (complete address problem).trans (same address problem)⟩

theorem Reports.nil : Reports (fun _ _ => False) [] :=
  ⟨[], rfl, .nil, by simp⟩

/-- One place that is checked. -/
theorem Reports.option (fault? : Option Problem) :
    Reports (fun address problem => address = [] ∧ fault? = some problem) fault?.toList := by
  cases fault? with
  | none => exact Reports.nil.congr (by simp)
  | some problem => exact ⟨[([], problem)], rfl, by simp, by simp [eq_comm]⟩

theorem Reports.check (broken : Prop) [Decidable broken] (problem : Problem) :
    Reports (fun address problem' => broken ∧ address = [] ∧ problem' = problem)
      (if broken then [problem] else []) := by
  split
  · rename_i broken
    exact ⟨[([], problem)], rfl, by simp, by simp [broken]⟩
  · rename_i kept
    exact Reports.nil.congr (by simp [kept])

/-- All places of one part come before those of the next. -/
theorem Reports.append (first : Reports violates problems) (second : Reports violates' problems')
    (before : ∀ address problem address' problem', violates address problem →
      violates' address' problem' → address < address') :
    Reports (fun address problem => violates address problem ∨ violates' address problem)
      (problems ++ problems') := by
  obtain ⟨report, rfl, ascending, complete⟩ := first
  obtain ⟨report', rfl, ascending', complete'⟩ := second
  refine ⟨report ++ report', List.map_append, ?_, fun address problem => ?_⟩
  · rw [List.map_append, List.pairwise_append]
    refine ⟨ascending, ascending', ?_⟩
    rintro _ mem _ mem'
    obtain ⟨e, there, rfl⟩ := List.mem_map.1 mem
    obtain ⟨e', there', rfl⟩ := List.mem_map.1 mem'
    exact before _ _ _ _ ((complete _ _).1 there) ((complete' _ _).1 there')
  · rw [List.mem_append, complete, complete']

/-- A part of a greater whole. -/
theorem Reports.under (reports : Reports violates problems) (part : Nat) :
    Reports (fun address problem => ∃ rest, address = part :: rest ∧ violates rest problem)
      problems := by
  obtain ⟨report, rfl, ascending, complete⟩ := reports
  refine ⟨report.map fun e => (part :: e.1, e.2), by simp, ?_, fun address problem => ?_⟩
  · rw [List.map_map, List.pairwise_map] at *
    exact ascending.imp fun before => List.cons_lt_cons_iff.2 (.inr ⟨rfl, before⟩)
  · simp only [List.mem_map, Prod.mk.injEq, Prod.exists, complete]
    constructor
    · rintro ⟨rest, _, violated, rfl, rfl⟩
      exact ⟨rest, rfl, violated⟩
    · rintro ⟨rest, rfl, violated⟩
      exact ⟨rest, problem, violated, rfl, rfl⟩

/-! ## Lists of places -/

/-- What is said of each item in view of those before it. -/
def scan (say : List α → α → List β) : List α → List α → List β
  | _, [] => []
  | before, a :: rest => say before a ++ scan say (before ++ [a]) rest

theorem flatMap_eq_scan (say : α → List β) (before items : List α) :
    items.flatMap say = scan (fun _ => say) before items := by
  induction items generalizing before with
  | nil => rfl
  | cons a rest same => rw [List.flatMap_cons, scan, same]

theorem Reports.scan_from {say : List α → α → List Problem}
    {violates : List α → α → Address → Problem → Prop}
    (each : ∀ before a, Reports (violates before a) (say before a)) (before items : List α) :
    Reports (fun address problem => ∃ i a rest, items[i]? = some a ∧
        address = (before.length + i) :: rest ∧ violates (before ++ items.take i) a rest problem)
      (scan say before items) := by
  induction items generalizing before with
  | nil => exact Reports.nil.congr (by simp)
  | cons a items later =>
    refine (((each before a).under before.length).append (later (before ++ [a])) ?_).congr ?_
    · rintro _ _ _ _ ⟨_, rfl, _⟩ ⟨i, _, _, _, rfl, _⟩
      rw [List.length_append, List.length_singleton]
      exact List.cons_lt_cons_iff.2 (.inl (by omega))
    · intro address problem
      constructor
      · rintro (⟨rest, rfl, violated⟩ | ⟨i, b, rest, listed, rfl, violated⟩)
        · exact ⟨0, a, rest, rfl, rfl, by simpa using violated⟩
        · refine ⟨i + 1, b, rest, listed, ?_, by simpa using violated⟩
          rw [List.length_append, List.length_singleton, Nat.add_assoc, Nat.add_comm 1 i]
      · rintro ⟨_ | i, b, rest, listed, rfl, violated⟩
        · obtain rfl := Option.some.inj listed
          exact .inl ⟨rest, rfl, by simpa using violated⟩
        · refine .inr ⟨i, b, rest, listed, ?_, by simpa using violated⟩
          rw [List.length_append, List.length_singleton, Nat.add_assoc, Nat.add_comm 1 i]

/-- The items of a list one after the other, each in view of those before it. -/
theorem Reports.scan {say : List α → α → List Problem}
    {violates : List α → α → Address → Problem → Prop}
    (each : ∀ before a, Reports (violates before a) (say before a)) (items : List α) :
    Reports (fun address problem => ∃ i a rest, items[i]? = some a ∧ address = i :: rest ∧
      violates (items.take i) a rest problem) (scan say [] items) := by
  simpa using Reports.scan_from each [] items

/-- The items of a list one after the other, each by itself. -/
theorem Reports.forEach {say : α → List Problem} {violates : α → Address → Problem → Prop}
    (each : ∀ a, Reports (violates a) (say a)) (items : List α) :
    Reports (fun address problem => ∃ i a rest, items[i]? = some a ∧ address = i :: rest ∧
      violates a rest problem) (items.flatMap say) := by
  rw [flatMap_eq_scan say []]
  exact @Reports.scan _ (fun _ => say) (fun _ => violates) (fun _ => each) items

/-- Items that are checked one by one. -/
theorem Reports.filterMap (fault? : α → Option Problem) (items : List α) :
    Reports (fun address problem => ∃ i a, items[i]? = some a ∧ address = [i] ∧
      fault? a = some problem) (items.filterMap fault?) := by
  rw [List.filterMap_eq_flatMap_toList]
  refine (Reports.forEach (fun a => Reports.option (fault? a)) items).congr
    fun address problem => ?_
  constructor
  · rintro ⟨i, a, _, listed, rfl, rfl, faulty⟩
    exact ⟨i, a, listed, rfl, faulty⟩
  · rintro ⟨i, a, listed, rfl, faulty⟩
    exact ⟨i, a, [], listed, rfl, rfl, faulty⟩

theorem head_lt {part part' : Nat} (before : part < part') (rest rest' : Address) :
    part :: rest < part' :: rest' :=
  List.cons_lt_cons_iff.2 (.inl before)

/-! ## One application -/

theorem reports_handlerProblems (path : String) (handler : HandlerSpec) :
    Reports (handler.Violates path) (handlerProblems path handler) := by
  have bare := (Reports.check (handler.patterns.isEmpty = true)
    (.noPatterns path handler.name)).under 0
  refine (bare.append ((Reports.filterMap _ handler.patterns).under 1) ?_).congr
    fun address problem => ⟨?_, ?_⟩
  · rintro _ _ _ _ ⟨_, rfl, _⟩ ⟨_, rfl, _⟩
    exact head_lt (by decide) _ _
  · rintro (⟨_, rfl, nothing, rfl, rfl⟩ | ⟨_, rfl, i, pattern, listed, rfl, faulty⟩)
    · exact .bare (List.isEmpty_iff.1 nothing)
    · cases read : Pattern.parse pattern with
      | ok p => simp [read] at faulty
      | error fault =>
        rw [read] at faulty
        obtain rfl := Option.some.inj faulty
        exact .unreadable listed read
  · rintro (nothing | ⟨listed, malformed⟩)
    · exact .inl ⟨[], rfl, List.isEmpty_iff.2 nothing, rfl, rfl⟩
    · exact .inr ⟨_, rfl, _, _, listed, rfl, by rw [malformed]⟩

theorem reports_welcomeProblems (path : String) (names : List String) :
    Reports (fun address problem => ∃ i name, names[i]? = some name ∧ address = [i] ∧
      (name = "" ∨ ∃ rest, name = "/" ++ rest) ∧ problem = .invalidWelcomeFile path name)
      (welcomeProblems path names) := by
  rw [welcomeProblems, ← List.filterMap_eq_map, List.filterMap_filter]
  refine (Reports.filterMap _ names).congr fun address problem => ?_
  simp only [Function.comp_apply, Bool.or_eq_true, beq_iff_eq, Text.startsWith_eq_true_iff,
    ite_eq_iff, Option.some.injEq, reduceCtorEq, and_false, or_false, eq_comm (a := problem)]

theorem isMountPath_iff {path : String} : isMountPath path = true ↔ Mountable path := by
  rw [isMountPath, Mountable, ← Text.startsWith_eq_true_iff, ← Text.endsWith_eq_true_iff]
  simp

/-- The problems of an application that is listed behind others. -/
def problemsBehind (host : String) (before : List ApplicationSpec) (app : ApplicationSpec) :
    List Problem :=
  (if ¬ isMountPath app.path then [.invalidApplicationPath host app.path] else []) ++
    (if ∃ other ∈ before, other.path = app.path ∧ other.version = app.version
      then [.duplicateApplication host app.path app.version] else []) ++
    contentProblems app

theorem mem_versionKeys_iff {before : List ApplicationSpec} {app : ApplicationSpec} :
    versionKey app ∈ before.map versionKey ↔
      ∃ other ∈ before, other.path = app.path ∧ other.version = app.version := by
  simp [versionKey]

theorem reports_problemsBehind (host : String) (before : List ApplicationSpec)
    (app : ApplicationSpec) :
    Reports (app.Violates host before) (problemsBehind host before app) := by
  have path := (Reports.check (¬ isMountPath app.path = true)
    (.invalidApplicationPath host app.path)).under 0
  have repeated := (Reports.check
    (∃ other ∈ before, other.path = app.path ∧ other.version = app.version)
    (.duplicateApplication host app.path app.version)).under 1
  have handlers := (Reports.forEach (reports_handlerProblems app.path) app.handlers).under 2
  have welcome := (reports_welcomeProblems app.path app.welcomeFiles).under 3
  refine ((path.append repeated ?_).append (handlers.append welcome ?_) ?_).congr
    fun address problem => ⟨?_, ?_⟩
  · rintro _ _ _ _ ⟨_, rfl, _⟩ ⟨_, rfl, _⟩
    exact head_lt (by decide) _ _
  · rintro _ _ _ _ ⟨_, rfl, _⟩ ⟨_, rfl, _⟩
    exact head_lt (by decide) _ _
  · rintro _ _ _ _ (⟨_, rfl, _⟩ | ⟨_, rfl, _⟩) (⟨_, rfl, _⟩ | ⟨_, rfl, _⟩) <;>
      exact head_lt (by decide) _ _
  · rintro ((⟨_, rfl, unfit, rfl, rfl⟩ | ⟨_, rfl, again, rfl, rfl⟩) |
      (⟨_, rfl, i, handler, rest, listed, rfl, violated⟩ |
        ⟨_, rfl, i, name, listed, rfl, unfit, rfl⟩))
    · exact .unmountable (mt isMountPath_iff.2 unfit)
    · obtain ⟨other, earlier, path, version⟩ := again
      exact .repeated earlier path version
    · exact .handler listed violated
    · exact .welcomeFile listed unfit
  · rintro (unfit | ⟨earlier, path, version⟩ | ⟨listed, violated⟩ | ⟨listed, unfit⟩)
    · exact .inl (.inl ⟨[], rfl, mt isMountPath_iff.1 unfit, rfl, rfl⟩)
    · exact .inl (.inr ⟨[], rfl, ⟨_, earlier, path, version⟩, rfl, rfl⟩)
    · exact .inr (.inl ⟨_, rfl, _, _, _, listed, rfl, violated⟩)
    · exact .inr (.inr ⟨_, rfl, _, _, listed, rfl, unfit, rfl⟩)

/-! ## What has been seen -/

theorem mem_map_concat {key : α → β} {before : List α} {a : α} {k : β} :
    k ∈ (before ++ [a]).map key ↔ k ∈ before.map key ∨ k = key a := by
  rw [List.map_append, List.mem_append, List.map_singleton, List.mem_singleton]

/-- The versions seen are those of the applications before. -/
theorem applicationProblems_eq_scan (host : String) {seen : List (String × String)}
    {before : List ApplicationSpec} (carried : ∀ key, key ∈ seen ↔ key ∈ before.map versionKey)
    (apps : List ApplicationSpec) :
    applicationProblems host seen apps = scan (problemsBehind host) before apps := by
  induction apps generalizing seen before with
  | nil => rfl
  | cons app rest same =>
    have own : (app.path, app.version) ∈ seen ↔
        ∃ other ∈ before, other.path = app.path ∧ other.version = app.version :=
      (carried _).trans mem_versionKeys_iff
    have later (key : String × String) : key ∈ (app.path, app.version) :: seen ↔
        key ∈ (before ++ [app]).map versionKey := by
      rw [List.mem_cons, carried, mem_map_concat, or_comm]
      rfl
    rw [applicationProblems, same later, scan, problemsBehind, if_congr own rfl rfl, ite_not]

/-- The keys seen are those of the items before, here or elsewhere. -/
theorem repeated_eq_scan [DecidableEq β] {key : α → β} {seen : List β} {before done : List α}
    (carried : ∀ k, k ∈ seen ↔ k ∈ (before ++ done).map key) (items : List α) :
    repeated key seen items =
      scan (fun done a => if key a ∈ (before ++ done).map key then [a] else []) done items := by
  induction items generalizing seen done with
  | nil => rfl
  | cons a rest same =>
    rw [repeated, scan, ← if_congr (carried (key a)) rfl rfl]
    split
    · rename_i again
      have later (k : β) : k ∈ seen ↔ k ∈ (before ++ (done ++ [a])).map key := by
        rw [carried, ← List.append_assoc, mem_map_concat]
        refine (or_iff_left_of_imp ?_).symm
        rintro rfl
        exact (carried _).1 again
      rw [same later]
      rfl
    · have later (k : β) : k ∈ key a :: seen ↔ k ∈ (before ++ (done ++ [a])).map key := by
        rw [List.mem_cons, carried, ← List.append_assoc, mem_map_concat, or_comm]
      rw [same later]
      rfl

/-! ## One host -/

/-- The problems of a host that is listed behind others, whose names are given. -/
def problemsOf (before : List String) (host : HostSpec) : List Problem :=
  (if Text.isBlank host.name then [.emptyHostName] else []) ++
    (scan (fun done name => if normalizeHostName name ∈ (before ++ done).map normalizeHostName
      then [name] else []) [] (namesOf host)).map .duplicateHost ++
    scan (problemsBehind host.name) [] host.applications

theorem map_scan {γ : Type} (f : β → γ) (say : List α → α → List β) (before items : List α) :
    (scan say before items).map f = scan (fun before a => (say before a).map f) before items := by
  induction items generalizing before with
  | nil => rfl
  | cons a rest same => rw [scan, List.map_append, same, scan]

theorem reports_problemsOf (before : List String) (host : HostSpec) :
    Reports (host.Violates before) (problemsOf before host) := by
  have blank := (Reports.check (Text.isBlank host.name = true) .emptyHostName).under 0
  have repeated := (Reports.scan (fun done name => Reports.check
    (normalizeHostName name ∈ (before ++ done).map normalizeHostName) (.duplicateHost name))
    (namesOf host)).under 1
  have applications := (Reports.scan (reports_problemsBehind host.name) host.applications).under 2
  rw [problemsOf, map_scan]
  simp only [apply_ite (List.map _), List.map_singleton, List.map_nil]
  refine ((blank.append repeated ?_).append applications ?_).congr
    fun address problem => ⟨?_, ?_⟩
  · rintro _ _ _ _ ⟨_, rfl, _⟩ ⟨_, rfl, _⟩
    exact head_lt (by decide) _ _
  · rintro _ _ _ _ (⟨_, rfl, _⟩ | ⟨_, rfl, _⟩) ⟨_, rfl, _⟩ <;>
      exact head_lt (by decide) _ _
  · rintro ((⟨_, rfl, unseen, rfl, rfl⟩ | ⟨_, rfl, i, name, _, listed, rfl, again, rfl, rfl⟩) |
      ⟨_, rfl, i, app, rest, listed, rfl, violated⟩)
    · exact .blank (List.all_eq_true.1 unseen)
    · obtain ⟨other, earlier, same⟩ := List.mem_map.1 again
      exact .repeated listed earlier same
    · exact .application listed violated
  · rintro (unseen | ⟨listed, earlier, same⟩ | ⟨listed, violated⟩)
    · exact .inl (.inl ⟨[], rfl, List.all_eq_true.2 unseen, rfl, rfl⟩)
    · exact .inl (.inr ⟨_, rfl, _, _, [], listed, rfl, List.mem_map.2 ⟨_, earlier, same⟩, rfl,
        rfl⟩)
    · exact .inr ⟨_, rfl, _, _, _, listed, rfl, violated⟩

/-- The names seen are those of the hosts before. -/
theorem hostProblems_eq_scan {seen : List String} {before : List HostSpec}
    (carried : ∀ key, key ∈ seen ↔ key ∈ (before.flatMap namesOf).map normalizeHostName)
    (hosts : List HostSpec) :
    hostProblems seen hosts =
      scan (fun before host => problemsOf (before.flatMap namesOf) host) before hosts := by
  induction hosts generalizing seen before with
  | nil => rfl
  | cons host rest same =>
    have later (key : String) : key ∈ (namesOf host).map normalizeHostName ++ seen ↔
        key ∈ ((before ++ [host]).flatMap namesOf).map normalizeHostName := by
      rw [List.flatMap_append, List.map_append, List.mem_append, List.mem_append, carried,
        List.flatMap_singleton, or_comm]
    have earlier (key : String) :
        key ∈ seen ↔ key ∈ (before.flatMap namesOf ++ []).map normalizeHostName := by
      rw [List.append_nil, carried]
    have unseen (key : String × String) :
        key ∈ [] ↔ key ∈ ([] : List ApplicationSpec).map versionKey := .rfl
    rw [hostProblems, repeated_eq_scan earlier, applicationProblems_eq_scan host.name unseen,
      same later, scan, problemsOf]

/-! ## The descriptor -/

variable {d : Descriptor}

theorem defaultHostProblems_eq (d : Descriptor) :
    d.defaultHostProblems = (d.defaultHost.bind fun name =>
      if normalizeHostName name ∈ d.storedNames then none
      else some (Problem.unknownDefaultHost name)).toList := by
  unfold defaultHostProblems
  cases d.defaultHost with
  | none => rfl
  | some name =>
    dsimp only [Option.bind_some]
    split <;> rfl

/-- **Every violation is reported**, and nothing else. -/
theorem reports_validate (d : Descriptor) : Reports d.Violates (validate d) := by
  have hosts := (Reports.scan (fun before host => reports_problemsOf (before.flatMap namesOf) host)
    d.hosts).under 0
  have defaultHost := (Reports.option (d.defaultHost.bind fun name =>
    if normalizeHostName name ∈ d.storedNames then none
    else some (.unknownDefaultHost name))).under 1
  have unseen (key : String) :
      key ∈ [] ↔ key ∈ (([] : List HostSpec).flatMap namesOf).map normalizeHostName := .rfl
  rw [validate, hostProblems_eq_scan unseen, defaultHostProblems_eq]
  refine (hosts.append defaultHost ?_).congr fun address problem => ⟨?_, ?_⟩
  · rintro _ _ _ _ ⟨_, rfl, _⟩ ⟨_, rfl, _⟩
    exact head_lt (by decide) _ _
  · rintro (⟨_, rfl, i, host, rest, listed, rfl, violated⟩ | ⟨_, rfl, rfl, faulty⟩)
    · exact .host listed violated
    · obtain ⟨name, named, missing⟩ := Option.bind_eq_some_iff.1 faulty
      split at missing
      · cases missing
      · rename_i unknown
        obtain rfl := Option.some.inj missing
        exact .defaultHost named unknown
  · rintro (⟨listed, violated⟩ | ⟨named, unknown⟩)
    · exact .inl ⟨_, rfl, _, _, _, listed, rfl, violated⟩
    · exact .inr ⟨[], rfl, rfl, by rw [named, Option.bind_some, if_neg unknown]⟩

theorem Reports.eq_nil_iff (reports : Reports violates problems) :
    problems = [] ↔ ∀ address problem, ¬ violates address problem := by
  obtain ⟨report, rfl, _, complete⟩ := reports
  rw [List.map_eq_nil_iff, List.eq_nil_iff_forall_not_mem, Prod.forall]
  exact forall_congr' fun address => forall_congr' fun problem => not_congr (complete _ _)

/-! ## What is accepted -/

/-- What is required of a descriptor, all in all. -/
structure Acceptable (d : Descriptor) : Prop where
  hostNames : ∀ host ∈ d.hosts, ∃ c ∈ host.name.toList, Text.isSpace c = false
  names : d.storedNames.Nodup
  paths : ∀ host ∈ d.hosts, ∀ app ∈ host.applications, Mountable app.path
  versions : ∀ host ∈ d.hosts, (host.applications.map versionKey).Nodup
  patterns : ∀ host ∈ d.hosts, ∀ app ∈ host.applications, ∀ handler ∈ app.handlers,
    handler.patterns ≠ [] ∧ ∀ pattern ∈ handler.patterns, ∃ p, Pattern.parse pattern = .ok p
  welcomeFiles : ∀ host ∈ d.hosts, ∀ app ∈ host.applications, ∀ name ∈ app.welcomeFiles,
    ¬ (name = "" ∨ ∃ rest, name = "/" ++ rest)
  defaultHost : ∀ name, d.defaultHost = some name → normalizeHostName name ∈ d.storedNames

theorem split_at {items : List α} {i : Nat} {a : α} (listed : items[i]? = some a) :
    items = items.take i ++ a :: items.drop (i + 1) := by
  obtain ⟨inside, rfl⟩ := List.getElem?_eq_some_iff.1 listed
  rw [← List.drop_eq_getElem_cons inside, List.take_append_drop]

theorem ne_of_nodup {key : α → β} {front back : List α} {a b : α}
    (distinct : ((front ++ a :: back).map key).Nodup) (earlier : b ∈ front) : key b ≠ key a := by
  rw [List.map_append, List.map_cons, List.nodup_append] at distinct
  exact distinct.2.2 _ (List.mem_map_of_mem earlier) _ List.mem_cons_self

/-- The names before a name and those behind it are all the names. -/
theorem exists_storedNames_eq {i n : Nat} {host : HostSpec} {name : String}
    (listed : d.hosts[i]? = some host) (named : (namesOf host)[n]? = some name) :
    ∃ back, d.storedNames =
      (((d.hosts.take i).flatMap namesOf ++ (namesOf host).take n) ++ name :: back).map
        normalizeHostName := by
  refine ⟨(namesOf host).drop (n + 1) ++ (d.hosts.drop (i + 1)).flatMap namesOf, ?_⟩
  have all : d.storedNames = (d.hosts.flatMap namesOf).map normalizeHostName :=
    List.map_flatMap.symm
  have hosts := congrArg (List.flatMap namesOf) (split_at listed)
  rw [all, hosts, List.flatMap_append, List.flatMap_cons]
  conv_lhs => rw [split_at named]
  simp only [List.append_assoc, List.cons_append]

theorem acceptable_iff : d.Acceptable ↔ ∀ address problem, ¬ d.Violates address problem := by
  constructor
  · rintro acceptable address problem (⟨listed, violated⟩ | ⟨named, unknown⟩)
    · have mem := List.mem_of_getElem? listed
      rcases violated with unseen | ⟨named, earlier, same⟩ | ⟨deployed, violated⟩
      · obtain ⟨c, there, seen⟩ := acceptable.hostNames _ mem
        exact absurd (unseen c there) (Bool.eq_false_iff.1 seen)
      · obtain ⟨back, all⟩ := exists_storedNames_eq listed named
        exact ne_of_nodup (all ▸ acceptable.names) earlier same
      · have mem' := List.mem_of_getElem? deployed
        rcases violated with unfit | ⟨earlier, path, version⟩ | ⟨listed', violated⟩ |
          ⟨listed', unfit⟩
        · exact unfit (acceptable.paths _ mem _ mem')
        · have distinct := acceptable.versions _ mem
          rw [split_at deployed] at distinct
          exact ne_of_nodup distinct earlier (Prod.ext path version)
        · obtain ⟨some_listed, readable⟩ :=
            acceptable.patterns _ mem _ mem' _ (List.mem_of_getElem? listed')
          rcases violated with nothing | ⟨written, malformed⟩
          · exact some_listed nothing
          · obtain ⟨p, read⟩ := readable _ (List.mem_of_getElem? written)
            cases malformed.symm.trans read
        · exact acceptable.welcomeFiles _ mem _ mem' _ (List.mem_of_getElem? listed') unfit
    · exact unknown (acceptable.defaultHost _ named)
  · intro kept
    have deployable := deployable_of_validate ((reports_validate d).eq_nil_iff.2 kept)
    have application {host : HostSpec} {app : ApplicationSpec} (mem : host ∈ d.hosts)
        (mem' : app ∈ host.applications) {address : Address} {problem : Problem}
        (violated : ∀ before, app.Violates host.name before address problem) : False := by
      obtain ⟨i, listed⟩ := List.getElem?_of_mem mem
      obtain ⟨j, deployed⟩ := List.getElem?_of_mem mem'
      exact kept _ _ (.host listed (.application deployed (violated _)))
    refine ⟨fun host mem => ?_, deployable.names, fun host mem app mem' => ?_,
      deployable.versions, fun host mem app mem' handler mem'' => ⟨fun nothing => ?_,
        deployable.patterns host mem app mem' handler mem''⟩,
      fun host mem app mem' name mem'' unfit => ?_, deployable.defaultHost⟩
    · obtain ⟨i, listed⟩ := List.getElem?_of_mem mem
      by_contra unseen
      refine kept _ _ (.host listed (.blank fun c there => ?_))
      exact eq_true_of_ne_false fun seen => unseen ⟨c, there, seen⟩
    · by_contra unfit
      exact application mem mem' fun _ => .unmountable unfit
    · obtain ⟨k, listed⟩ := List.getElem?_of_mem mem''
      exact application mem mem' fun _ => .handler listed (.bare nothing)
    · obtain ⟨k, listed⟩ := List.getElem?_of_mem mem''
      exact application mem mem' fun _ => .welcomeFile listed unfit

/-- **Validation is exact.** It accepts a descriptor exactly if all conditions are met, and
else reports one problem for every place that breaks a rule, in the order of the places. -/
theorem validate_exact (d : Descriptor) :
    (validate d = [] ↔ d.Acceptable) ∧ Reports d.Violates (validate d) :=
  ⟨(reports_validate d).eq_nil_iff.trans acceptable_iff.symm, reports_validate d⟩

end Descriptor

end VirtualHosting
