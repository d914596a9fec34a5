/-
# Proofs.TargetIndex — where targets are deployed

Whoever holds an application resolves within it by its target, and the index
tells where that was deployed last. The index is written beside the tables, once
in every call that deploys or withdraws anything. `Shift` says what a call can do
to the two, and from it follow two invariants: what the index tells is so, and,
as long as no target is deployed at two places, the index tells all.

* `shift_after`: what a call does to the deployments and to the index;
* `Reachable.indexed`: no target is ever sent to a place where it is not deployed;
* `Indexed.forgetHost_eq`: forgetting a host is forgetting each of its versions;
* `complete_runAll`: without shared targets the index is the deployments reversed;
* `index_agrees`: resolving within an application agrees with resolving a request.
-/
import Mathlib.Data.List.Infix
import VirtualHosting.Proofs.Refinement
import VirtualHosting.Proofs.Request

namespace VirtualHosting

set_option autoImplicit false

variable {H A W : Type}

/-! ## The index -/

namespace TargetIndex

variable {index : TargetIndex A}

theorem place?_record [DecidableEq A] (target : A) (place : Coordinates) (t : A) :
    (index.record target place).place? t = if t = target then some place else index.place? t := rfl

theorem place?_forget [DecidableEq A] (target : A) (place : Coordinates) (t : A) :
    (index.forget target place).place? t =
      if t = target ∧ index.place? t = some place then none else index.place? t := rfl

theorem place?_forgetHost (host : String) (t : A) :
    (index.forgetHost host).place? t = (index.place? t).filter (·.host != host) := rfl

theorem place?_forget_eq_some_iff [DecidableEq A] {target t : A} {place other : Coordinates} :
    (index.forget target place).place? t = some other ↔
      index.place? t = some other ∧ ¬ (t = target ∧ other = place) := by
  rw [place?_forget]
  constructor
  · intro found
    split at found
    · cases found
    · rename_i stays
      refine ⟨found, ?_⟩
      rintro ⟨here, rfl⟩
      exact stays ⟨here, found⟩
  · rintro ⟨found, stays⟩
    rw [if_neg, found]
    rintro ⟨here, gone⟩
    exact stays ⟨here, Option.some.inj (found.symm.trans gone)⟩

theorem place?_forgetHost_eq_some_iff {host : String} {t : A} {place : Coordinates} :
    (index.forgetHost host).place? t = some place ↔
      index.place? t = some place ∧ place.host ≠ host := by
  rw [place?_forgetHost, Option.filter_eq_some_iff, bne_iff_ne]

/-- Drops deployments one after another. -/
def forgetAll [DecidableEq A] (index : TargetIndex A) (deployed : List (Coordinates × A)) :
    TargetIndex A :=
  deployed.foldl (fun index e => index.forget e.2 e.1) index

/-- A target keeps its place unless that is among what is dropped. -/
theorem place?_forgetAll_eq_some_iff [DecidableEq A] {deployed : List (Coordinates × A)}
    {place : Coordinates} {t : A} :
    (index.forgetAll deployed).place? t = some place ↔
      index.place? t = some place ∧ (place, t) ∉ deployed := by
  induction deployed generalizing index with
  | nil => simp [forgetAll]
  | cons e rest left =>
    have first : index.forgetAll (e :: rest) = (index.forget e.2 e.1).forgetAll rest := rfl
    rw [first, left, place?_forget_eq_some_iff, List.mem_cons, not_or, and_assoc, Prod.ext_iff,
      and_comm (a := t = e.2)]

end TargetIndex

namespace Router

variable {r next : Router H A W}

theorem index_addAliases (r : Router H A W) (host : String) (names : List String) :
    (r.addAliases host names).value.index = r.index := by
  induction names generalizing r with
  | nil => rfl
  | cons name rest same =>
    rw [value_addAliases_cons, same, value_insertAlias]
    split
    · rfl
    · split <;> rfl

theorem index_addHost [DecidableEq H] (r : Router H A W) (name : String) (aliases : List String)
    (target : H) : (r.addHost name aliases target).value.2.index = r.index := by
  rw [value_addHost]
  split
  · rfl
  · split
    · exact index_addAliases r _ aliases
    · rfl
  · refine (index_addAliases _ _ aliases).trans ?_
    split <;> rfl

theorem deployed_enterHost (ordered : r.entries.Ordered) {name : String} {target : H}
    {entries : Table (HostEntry H A W)}
    (inserted : r.entries.insert? name (.real { target }) = some entries) :
    ({ r with entries } : Router H A W).ledger.deployed = r.ledger.deployed := by
  rw [ledger_enterHost ordered inserted]
  rfl

/-! ## One call -/

variable [DecidableEq A]

/-- What becomes of the deployments, and of the index with them. -/
inductive Shift (r next : Router H A W) : Prop where
  | same (deployed : next.ledger.deployed = r.ledger.deployed) (index : next.index = r.index)
  | arrives (target : A) (place : Coordinates) (free : r.ledger.deployed place = none)
      (deployed : next.ledger.deployed =
        Function.update r.ledger.deployed place (some target))
      (index : next.index = r.index.record target place)
  | leaves (target : A) (place : Coordinates) (there : r.ledger.deployed place = some target)
      (deployed : next.ledger.deployed = Function.update r.ledger.deployed place none)
      (index : next.index = r.index.forget target place)
  | closes (host : String)
      (deployed : next.ledger.deployed =
        fun place => if place.host = host then none else r.ledger.deployed place)
      (index : next.index = r.index.forgetHost host)

theorem Shift.of_same {middle : Router H A W} (shift : Shift middle next)
    (deployed : middle.ledger.deployed = r.ledger.deployed) (index : middle.index = r.index) :
    Shift r next := by
  cases shift with
  | same deployed' index' => exact .same (deployed'.trans deployed) (index'.trans index)
  | arrives target place free deployed' index' =>
    rw [deployed] at free deployed'
    rw [index] at index'
    exact .arrives target place free deployed' index'
  | leaves target place there deployed' index' =>
    rw [deployed] at there deployed'
    rw [index] at index'
    exact .leaves target place there deployed' index'
  | closes host deployed' index' =>
    rw [deployed] at deployed'
    rw [index] at index'
    exact .closes host deployed' index'

variable [DecidableEq W]

theorem Edit.shift (edit : Edit r next) (sound : r.Sound) : Shift r next := by
  have ordered := sound.wellFormed.ordered
  cases edit with
  | setDefault => exact .same rfl rfl
  | enterHost inserted => exact .same (deployed_enterHost ordered inserted) rfl
  | @enterAlias name host owner entries owned inserted =>
    have nextOrdered : ({ r with entries } : Router H A W).entries.Ordered :=
      ordered.insert? inserted
    have listed := ledger_modifyAliases nextOrdered host (· ++ [normalizeHostName name])
    have entered := ledger_insert ordered inserted nofun
    refine .same ?_ rfl
    rw [listed, entered]
    rfl
  | @dropHost name =>
    exact .closes name (congrArg Ledger.deployed (ledger_leave ordered _)) rfl
  | @dropAlias name host entries known erased =>
    have nextOrdered : ({ r with entries } : Router H A W).entries.Ordered :=
      ordered.erase? erased
    have unlisted := ledger_modifyAliases nextOrdered host (List.erase · name)
    have left := ledger_erase ordered known erased
    refine .same ?_ rfl
    rw [unlisted, left]
  | @deploy name host deployment handlers published known _ done =>
    have hostOrdered := sound.wellFormed.of_host? known
    have deployed := deployed_ledger_of_host? known deployment.path deployment.version
    obtain ⟨free, changed⟩ := hostOrdered.of_publish_added done
    have grown := ledger_modifyMounts_update (f := fun _ => published) ordered known changed
    rw [free] at deployed
    exact .arrives deployment.target _ deployed (congrArg Ledger.deployed grown) rfl
  | @undeploy place host application removed remaining known mounted deployed erased =>
    have hostOrdered := sound.wellFormed.of_host? known
    have there := deployed_ledger_of_host? known place.path place.version
    rw [Mounts.WellFormed.version?_of_find? mounted, deployed] at there
    have shrunk := ledger_modifyMounts_update (f := fun mounts =>
      if remaining.isEmpty then (mounts.remove? place.path).getD mounts
      else mounts.modifyVersions place.path fun _ => remaining)
      ordered known (hostOrdered.version?_withdraw mounted erased)
    exact .leaves removed.target place there (congrArg Ledger.deployed shrunk) rfl
  | revise deployed revision =>
    have kept := ledger_modifyVersion sound.wellFormed deployed revision.target_eq
    exact .same (congrArg Ledger.deployed kept) rfl

theorem MayEdit.shift (may : MayEdit r next) (sound : r.Sound) : Shift r next := by
  cases may with
  | refl => exact .same rfl rfl
  | single edit => exact edit.shift sound

variable [DecidableEq H]

/-- **What a call does to the deployments it also does to the index.** -/
theorem shift_after (sound : r.Sound) (call : Call H A W) : Shift r (r.after call) := by
  cases call with
  | setDefaultHost name => exact .same rfl rfl
  | addHost name aliases target =>
    have filed := congrArg Prod.snd (file_addHost sound name aliases target)
    have deployed := (congrArg Ledger.deployed filed).trans (Ledger.deployed_addHost _ _ _ _)
    exact .same deployed (index_addHost r name aliases target)
  | removeHost name => exact (mayEdit_removeHost r name).shift sound
  | addAlias host name => exact (mayEdit_addAlias sound host name).shift sound
  | removeAlias name => exact (mayEdit_removeAlias r name).shift sound
  | deploy host hostTarget deployment =>
    obtain ⟨grown, last, rfl | ⟨entries, inserted, rfl⟩⟩ :=
      exists_mayEdit_deploy sound host hostTarget deployment
    · exact last.shift sound
    · have entered : Edit r { r with entries } := .enterHost inserted
      have bare := deployed_enterHost sound.wellFormed.ordered inserted
      exact (last.shift (entered.sound sound)).of_same bare rfl
  | undeploy place => exact (mayEdit_undeploy r place).shift sound
  | pause place target => exact (mayRevise_pause r place target).mayEdit.shift sound
  | addHandler place pattern target flags =>
    exact (mayRevise_addHandler r place pattern target flags).mayEdit.shift sound
  | removeHandler place pattern =>
    exact (mayRevise_removeHandler r place pattern).mayEdit.shift sound
  | addWelcomeFile place name => exact (mayRevise_addWelcomeFile r place name).mayEdit.shift sound
  | removeWelcomeFile place name =>
    exact (mayRevise_removeWelcomeFile r place name).mayEdit.shift sound
  | clearWelcomeFiles place => exact (mayRevise_clearWelcomeFiles r place).mayEdit.shift sound

/-! ## What the index tells is so -/

omit [DecidableEq H] [DecidableEq A] [DecidableEq W]

/-- A target is deployed where the index sends it. -/
def Indexed (r : Router H A W) : Prop :=
  ∀ target place, r.index.place? target = some place → r.ledger.deployed place = some target

theorem indexed_empty : (empty : Router H A W).Indexed :=
  fun _ _ found => nomatch found

theorem Shift.indexed [DecidableEq A] (shift : Shift r next) (indexed : r.Indexed) :
    next.Indexed := by
  intro t other found
  cases shift with
  | same deployed index =>
    rw [index] at found
    rw [deployed, indexed t other found]
  | arrives target place free deployed index =>
    rw [index, TargetIndex.place?_record] at found
    rw [deployed, Function.update_apply]
    split at found
    · rename_i here
      rw [if_pos (Option.some.inj found).symm, here]
    · have known := indexed t other found
      have elsewhere : other ≠ place := by
        rintro rfl
        cases free.symm.trans known
      rw [if_neg elsewhere, known]
  | leaves target place there deployed index =>
    rw [index, TargetIndex.place?_forget_eq_some_iff] at found
    obtain ⟨found, stays⟩ := found
    have known := indexed t other found
    -- Had the index sent the target to the place it leaves, it would be forgotten.
    have elsewhere : other ≠ place := by
      rintro rfl
      exact stays ⟨Option.some.inj (known.symm.trans there), rfl⟩
    rw [deployed, Function.update_of_ne elsewhere, known]
  | closes host deployed index =>
    rw [index, TargetIndex.place?_forgetHost_eq_some_iff] at found
    rw [deployed]
    dsimp only
    rw [if_neg found.2, indexed t other found.1]

/-- No target is sent to a place where it is not deployed, whatever was called. -/
theorem Reachable.indexed [DecidableEq H] [DecidableEq A] [DecidableEq W]
    (reachable : r.Reachable) : r.Indexed := by
  obtain ⟨calls, rfl⟩ := reachable
  suffices run : ∀ r : Router H A W, r.Sound → r.Indexed → (r.runAll calls).Indexed from
    run empty sound_empty indexed_empty
  intro r sound indexed
  induction calls generalizing r with
  | nil => exact indexed
  | cons call rest kept =>
    exact kept _ ((edits_after sound call).sound sound) ((shift_after sound call).indexed indexed)

/-- **A host that leaves is forgotten** as its versions are, one after another. -/
theorem Indexed.forgetHost_eq [DecidableEq A] (indexed : r.Indexed) (sound : r.Sound)
    {host : String} {owner : Host H A W} (known : r.host? host = some owner) :
    r.index.forgetHost host =
      r.index.forgetAll (((HostEntry.real owner).deployments host).map fun e =>
        (e.1, e.2.target)) := by
  have ordered := sound.wellFormed.of_host? known
  refine congrArg TargetIndex.mk (funext fun target => Option.ext fun place => ?_)
  show (r.index.forgetHost host).place? target = _ ↔ (r.index.forgetAll _).place? target = _
  rw [TargetIndex.place?_forgetHost_eq_some_iff, TargetIndex.place?_forgetAll_eq_some_iff]
  refine and_congr_right fun found => not_congr ?_
  constructor
  · -- what the index sends to the host is deployed on it, and so it is on the list
    rintro rfl
    have there := indexed target place found
    rw [deployed_ledger, known, Option.bind_some] at there
    obtain ⟨version, deployed, rfl⟩ := Option.map_eq_some_iff.1 there
    exact List.mem_map.2
      ⟨(place, version), (HostEntry.mem_deployments_iff ordered).2 ⟨rfl, deployed⟩, rfl⟩
  · intro mem
    obtain ⟨⟨_, version⟩, listed, same⟩ := List.mem_map.1 mem
    obtain rfl := congrArg Prod.fst same
    exact ((HostEntry.mem_deployments_iff ordered).1 listed).1

/-! ## Without shared targets the index tells all -/

/-- No target is deployed at two places. -/
def Unshared (r : Router H A W) : Prop :=
  (r.deployments.map (·.2.target)).Nodup

/-- Whatever is deployed, the index sends its target there. -/
def Complete (r : Router H A W) : Prop :=
  ∀ target place, r.ledger.deployed place = some target → r.index.place? target = some place

theorem complete_empty : (empty : Router H A W).Complete := by
  intro target place there
  rw [ledger_empty] at there
  cases there

theorem deployed_ledger_eq_some_iff (ordered : r.WellFormed) {place : Coordinates} {target : A} :
    r.ledger.deployed place = some target ↔
      ∃ version, (place, version) ∈ r.deployments ∧ version.target = target := by
  simp only [mem_deployments_iff ordered]
  exact Option.map_eq_some_iff

theorem Unshared.unique (unshared : r.Unshared) (ordered : r.WellFormed)
    {place other : Coordinates} {target : A} (here : r.ledger.deployed place = some target)
    (there : r.ledger.deployed other = some target) : place = other := by
  obtain ⟨version, mem, rfl⟩ := (deployed_ledger_eq_some_iff ordered).1 here
  obtain ⟨version', mem', same⟩ := (deployed_ledger_eq_some_iff ordered).1 there
  exact congrArg Prod.fst (List.inj_on_of_nodup_map unshared mem mem' same.symm)

/-- A shift keeps the index complete if it leaves no target at two places. -/
theorem Shift.complete [DecidableEq A] (shift : Shift r next) (complete : r.Complete)
    (unique : ∀ {place other target}, next.ledger.deployed place = some target →
      next.ledger.deployed other = some target → place = other) : next.Complete := by
  intro t other known
  cases shift with
  | same deployed index =>
    rw [deployed] at known
    rw [index, complete t other known]
  | arrives target place free deployed index =>
    have arrived : next.ledger.deployed place = some target := by
      rw [deployed, Function.update_self]
    -- The record replaces whatever the index told of the target, so this is where
    -- a second place for it would be lost.
    rw [index, TargetIndex.place?_record]
    split
    · rename_i here
      rw [unique arrived (here ▸ known)]
    · rename_i elsewhere
      have moved : other ≠ place := by
        rintro rfl
        exact elsewhere (Option.some.inj (known.symm.trans arrived))
      rw [deployed, Function.update_of_ne moved] at known
      exact complete t other known
  | leaves target place there deployed index =>
    have stays : other ≠ place := by
      rintro rfl
      rw [deployed, Function.update_self] at known
      cases known
    rw [deployed, Function.update_of_ne stays] at known
    rw [index, TargetIndex.place?_forget_eq_some_iff]
    exact ⟨complete t other known, fun gone => stays gone.2⟩
  | closes host deployed index =>
    rw [deployed] at known
    dsimp only at known
    split at known
    · cases known
    · rename_i stays
      rw [index, TargetIndex.place?_forgetHost_eq_some_iff]
      exact ⟨complete t other known, stays⟩

/-- As long as no call leaves a target at two places, nothing is missing from the
index. -/
theorem complete_runAll [DecidableEq H] [DecidableEq A] [DecidableEq W]
    (calls : List (Call H A W))
    (unshared : ∀ earlier, earlier <+: calls → (runAll (empty : Router H A W) earlier).Unshared) :
    (runAll (empty : Router H A W) calls).Complete := by
  -- By the last call: the states before it are those of the shorter run.
  induction calls using List.reverseRecOn with
  | nil => exact complete_empty
  | append_singleton calls call complete =>
    have sound := (sound_empty (H := H) (A := A) (W := W)).runAll calls
    have before := complete fun earlier early =>
      unshared earlier (early.trans (calls.prefix_append _))
    have last := unshared _ (List.prefix_refl _)
    rw [runAll_append] at last ⊢
    have ordered := ((edits_after sound call).sound sound).wellFormed
    exact (shift_after sound call).complete before (last.unique ordered)

end Router

/-! ## Requests -/

/-- What a version gives to whoever holds its application. -/
def Resolution.within (version : Version A W) (uri : String) : Resolution H A W :=
  let reached : Resolution H A W :=
    { application := some version.target, slashCount := version.slashCount
      applicationPath := version.path }
  reached.complete uri (version.select uri).value

/-- Host and alternatives aside, a result of the version is what it gives to whoever
holds its application. -/
theorem Resolution.within_eq {version : Version A W} {path : String}
    (ordered : version.WellFormed path) (serving : H) (application : Application A W)
    (uri : String) :
    (within version uri : Resolution H A W) =
      { (upTo serving path application version).complete uri (version.select uri).value with
        host := none, versions := [] } := by
  unfold within upTo
  rw [ordered.path_eq]
  cases (version.select uri).value <;> rfl

namespace Router

variable {r : Router H A W}

theorem value_resolveWithin (r : Router H A W) (target : A) (uri : String) :
    (r.resolveWithin target uri).value =
      match (r.index.place? target).bind r.version? with
      | none => .unresolved
      | some version => .within version uri := by
  unfold resolveWithin
  cases (r.index.place? target).bind r.version? <;> rfl

/-- Resolving within an application uses a version deployed for its target. -/
theorem Indexed.exists_within (indexed : r.Indexed) (ordered : r.WellFormed) {target : A}
    {place : Coordinates} (found : r.index.place? target = some place) :
    ∃ version, (place, version) ∈ r.deployments ∧ version.target = target ∧
      ∀ uri, (r.resolveWithin target uri).value = .within version uri := by
  obtain ⟨version, listed, same⟩ :=
    (deployed_ledger_eq_some_iff ordered).1 (indexed target place found)
  have there := (mem_deployments_iff ordered).1 listed
  refine ⟨version, listed, same, fun uri => ?_⟩
  simp only [value_resolveWithin, found, Option.bind_some, there]

/-- So what the index tells of is found, and what it does not tell of is not. -/
theorem Indexed.application_resolveWithin (indexed : r.Indexed) (ordered : r.WellFormed)
    {target : A} {place : Coordinates} (found : r.index.place? target = some place)
    (uri : String) : (r.resolveWithin target uri).value.application = some target := by
  obtain ⟨version, _, same, within⟩ := indexed.exists_within ordered found
  rw [within, Resolution.within, Resolution.application_complete, same]

theorem resolveWithin_of_place?_eq_none {target : A} (missing : r.index.place? target = none)
    (uri : String) : (r.resolveWithin target uri).value = .unresolved := by
  rw [value_resolveWithin, missing]
  rfl

/-- Where the index misses nothing, a request and whoever holds the application it
selects get the same. -/
theorem Complete.resolveWithin_eq (complete : r.Complete) (sound : r.Sound)
    {host uri : String} {requested : Option String} {place : Coordinates}
    {version : Version A W}
    (selected : r.requestedVersion? host uri requested = some (place, version))
    (running : version.paused = false) :
    (r.resolveWithin version.target uri).value =
      { (r.resolve host uri requested).value with host := none, versions := [] } := by
  have there := sound.version?_of_requestedVersion? selected
  have ordered := sound.wellFormed.of_version? there
  have found : r.index.place? version.target = some place :=
    complete version.target place (Option.map_eq_some_iff.2 ⟨version, there, rfl⟩)
  obtain ⟨serving, application, result⟩ := exists_resolve_eq selected
  rw [running, if_neg Bool.false_ne_true] at result
  simp only [value_resolveWithin, found, Option.bind_some, there]
  rw [result]
  exact Resolution.within_eq ordered serving application uri

/-- **The index agrees with the deployments**, after any run: a target leads to a
version deployed for it or nowhere. In a run that never deploys a target at two
places at once the index holds exactly what is deployed, and resolving within the
application that a request selects gives what the request gets, but for host and
alternatives. -/
theorem index_agrees [DecidableEq H] [DecidableEq A] [DecidableEq W]
    (calls : List (Call H A W)) :
    let r := runAll (empty : Router H A W) calls
    (∀ target, r.index.place? target = none →
      ∀ uri, (r.resolveWithin target uri).value = .unresolved) ∧
    (∀ target place, r.index.place? target = some place →
      ∃ version, (place, version) ∈ r.deployments ∧ version.target = target ∧
        ∀ uri, (r.resolveWithin target uri).value = .within version uri) ∧
    ((∀ earlier, earlier <+: calls → (runAll (empty : Router H A W) earlier).Unshared) →
      (∀ target place, r.index.place? target = some place ↔
        ∃ version, (place, version) ∈ r.deployments ∧ version.target = target) ∧
      ∀ host uri requested place version,
        r.requestedVersion? host uri requested = some (place, version) →
        version.paused = false →
        (r.resolveWithin version.target uri).value =
          { (r.resolve host uri requested).value with host := none, versions := [] }) := by
  intro r
  have reachable : r.Reachable := ⟨calls, rfl⟩
  have sound := reachable.sound
  have indexed := reachable.indexed
  refine ⟨fun target missing uri => ?_, fun target place found => ?_, fun unshared => ?_⟩
  · rw [value_resolveWithin, missing]
    rfl
  · exact indexed.exists_within sound.wellFormed found
  · have complete : r.Complete := complete_runAll calls unshared
    refine ⟨fun target place => ?_, fun host uri requested place version selected running => ?_⟩
    · rw [← deployed_ledger_eq_some_iff sound.wellFormed]
      exact ⟨indexed target place, complete target place⟩
    · exact complete.resolveWithin_eq sound selected running

/-- A target that moves from one mount to another. -/
def moving : List (Call Nat Nat Nat) :=
  [.deploy "h" 0 { path := "/a", target := 1 },
    .undeploy ⟨"h", "/a", ""⟩,
    .deploy "h" 0
      { path := "/a/b", target := 1, handlers := [{ pattern := "/x", target := 7 }] }]

theorem index_agrees_moving :
    (runAll empty moving).index.place? 1 = some ⟨"h", "/a/b", ""⟩ ∧
      ((runAll empty moving).resolveWithin 1 "/a/b/x").value =
        { ((runAll empty moving).resolve "h" "/a/b/x" none).value with
          host := none, versions := [] } ∧
      ((runAll empty moving).resolveWithin 1 "/a/b/x").value.handler = some 7 := by
  have unshared : ∀ earlier, earlier <+: moving →
      (runAll (empty : Router Nat Nat Nat) earlier).Unshared := by
    intro earlier early
    have checked : ∀ earlier ∈ moving.inits,
        (((runAll empty earlier).deployments.map (·.2.target)).Nodup) := by decide +kernel
    exact checked earlier ((List.mem_inits _ _).2 early)
  obtain ⟨_, _, told⟩ := index_agrees moving
  obtain ⟨exact_index, agree⟩ := told unshared
  have chosen : ((runAll empty moving).requestedVersion? "h" "/a/b/x" none).map
      (fun found => (found.2.target, found.2.paused)) = some (1, false) := by decide +kernel
  obtain ⟨⟨place, version⟩, selected, fields⟩ := Option.map_eq_some_iff.1 chosen
  obtain ⟨same, running⟩ := Prod.mk.inj fields
  have equal := agree "h" "/a/b/x" none place version selected running
  dsimp only at same
  rw [same] at equal
  exact ⟨by decide +kernel, equal, by decide +kernel⟩

end Router

end VirtualHosting
