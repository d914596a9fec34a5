/-
# Proofs.Withdrawal — what was registered is withdrawn again

A registration and the withdrawal that follows it go different ways. A host comes
with those of its aliases that were free, and leaves with whatever leads to it; an
alias comes onto the end of a list and is erased from wherever it stands; an
application leaves with its last version, whether or not it came with it. All the
same nothing is left behind, and nothing else is taken along.

* `Sound.removeAlias_of_added`: an alias comes and goes;
* `remaining_addAliases`: aliases of a host make no difference to what stays when it
  leaves;
* `Sound.removeHost_of_added`: a host comes and goes;
* `Vacates.entries_eq`: a version comes and goes, and the host table is what it was.
-/
import VirtualHosting.Proofs.Contents
import VirtualHosting.Proofs.Copies
import VirtualHosting.Proofs.Repetition
import VirtualHosting.Proofs.TargetIndex

namespace VirtualHosting

set_option autoImplicit false

variable {H A W : Type}

namespace HostEntry

@[simp]
theorem belongsTo_real (found : Host H A W) (host name : String) :
    (real found).belongsTo host name = (name == host) := rfl

@[simp]
theorem belongsTo_aliasOf (owner host name : String) :
    (aliasOf owner : HostEntry H A W).belongsTo host name = (owner == host) := rfl

end HostEntry

namespace Router

variable {r next : Router H A W} {name host : String}

/-! ## Aliases -/

/-- An alias that comes into the table and onto the list of its host leaves both. -/
theorem Sound.detach_attach (sound : r.Sound) {owner : Host H A W}
    (owned : r.host? host = some owner) {entries left : Table (HostEntry H A W)}
    (inserted : r.entries.insert? name (.aliasOf host) = some entries)
    (erased : (entries.modify host
      (·.modify fun h => { h with aliases := h.aliases ++ [name] })).erase? name = some left) :
    left.modify host (·.modify fun h => { h with aliases := h.aliases.erase name }) =
      r.entries := by
  have ordered := sound.wellFormed.ordered
  have entered := ordered.insert? inserted
  have attached := entered.modify host fun entry =>
    entry.modify fun h => { h with aliases := h.aliases ++ [name] }
  have detached := attached.erase? erased
  have free := ordered.find?_eq_none_iff.2 (ordered.not_mem_of_insert? inserted)
  rw [host?_eq_some_iff] at owned
  have unlisted : name ∉ owner.aliases := by
    rw [sound.coherent.listed host owner owned, free]
    exact nofun
  have away : host ≠ name := by
    rintro rfl
    cases free.symm.trans owned
  apply (detached.modify host _).ext ordered
  intro key
  rw [detached.find?_modify, attached.find?_erase? erased, entered.find?_modify,
    ordered.find?_insert? inserted]
  by_cases here : key = host
  · subst here
    simp [away, owned, HostEntry.modify, List.erase_append_right _ unlisted]
  · by_cases there : key = name
    · rw [if_neg here, if_pos there, there, free]
    · simp only [if_neg here, if_neg there]

theorem exists_removeAlias (ordered : r.entries.Ordered)
    (known : r.entries.find? (normalizeHostName name) = some (.aliasOf host)) :
    ∃ left, r.entries.erase? (normalizeHostName name) = some left ∧
      (r.removeAlias name).value =
        (true, ({ r with entries := left } : Router H A W).modifyHost host
          fun h => { h with aliases := h.aliases.erase (normalizeHostName name) }) := by
  obtain ⟨left, erased⟩ := ordered.exists_erase? known
  refine ⟨left, erased, ?_⟩
  rw [value_removeAlias, known]
  simp only [erased]

/-- An alias that was added to a host leaves it again. -/
theorem Sound.removeAlias_of_inserted (sound : r.Sound) {owner : Host H A W}
    (owned : r.host? host = some owner)
    (added : (r.insertAlias host (normalizeHostName name)).value.1 = .added) :
    ((r.insertAlias host (normalizeHostName name)).value.2.removeAlias name).value = (true, r) := by
  have ordered := sound.wellFormed.ordered
  rw [value_insertAlias] at added ⊢
  cases inserted : r.entries.insert? (normalizeHostName name) (.aliasOf host) with
  | none =>
    rw [inserted] at added
    dsimp only at added
    split at added <;> cases added
  | some entries =>
    have entered : ({ r with entries } : Router H A W).entries.Ordered := ordered.insert? inserted
    have there := (ordered.find?_insert? inserted (normalizeHostName name)).trans (if_pos rfl)
    obtain ⟨left, erased, removed⟩ := exists_removeAlias (entered.modify host _)
      ((find?_modifyHost_eq_aliasOf_iff entered).2 there)
    have table := sound.detach_attach owned inserted erased
    rw [removed]
    exact congrArg (fun entries => (true, ({ r with entries } : Router H A W))) table

/-- A new alias leaves with exactly what came with it. -/
theorem Sound.removeAlias_of_added (sound : r.Sound)
    (added : (r.addAlias host name).value.1 = .ok .added) :
    ((r.addAlias host name).value.2.removeAlias name).value = (true, r) := by
  rw [value_addAlias] at added ⊢
  cases there : r.entries.find? (normalizeHostName host) with
  | none =>
    rw [there] at added
    cases added
  | some entry =>
    rw [there] at added
    obtain ⟨owner, owned⟩ := sound.exists_realName there
    exact sound.removeAlias_of_inserted owned (Except.ok.inj added)

/-! ## Hosts -/

/-- What stays in the table when a host leaves. -/
def remaining (r : Router H A W) (host : String) : Table (HostEntry H A W) :=
  r.entries.filter fun e => !e.2.belongsTo host e.1

theorem ordered_remaining (ordered : r.entries.Ordered) (host : String) :
    (r.remaining host).Ordered :=
  ordered.filter _

theorem find?_remaining (ordered : r.entries.Ordered) (host key : String) :
    (r.remaining host).find? key =
      (r.entries.find? key).filter fun entry => !entry.belongsTo host key :=
  ordered.find?_filter _ key

/-- An entry of the host's own makes no difference. -/
theorem remaining_insert (ordered : r.entries.Ordered) {entry : HostEntry H A W}
    {entries : Table (HostEntry H A W)} (inserted : r.entries.insert? name entry = some entries)
    (own : entry.belongsTo host name = true) :
    ({ r with entries } : Router H A W).remaining host = r.remaining host := by
  have nextOrdered : ({ r with entries } : Router H A W).entries.Ordered := ordered.insert? inserted
  have free := ordered.find?_eq_none_iff.2 (ordered.not_mem_of_insert? inserted)
  apply (ordered_remaining nextOrdered host).ext (ordered_remaining ordered host)
  intro key
  rw [find?_remaining nextOrdered, find?_remaining ordered]
  dsimp only
  rw [ordered.find?_insert? inserted]
  split
  · rename_i here
    rw [here, free, Option.filter_some, own]
    rfl
  · rfl

/-- Nor does a change of the host. -/
theorem remaining_modifyHost (ordered : r.entries.Ordered) (f : Host H A W → Host H A W) :
    (r.modifyHost host f).remaining host = r.remaining host := by
  have nextOrdered : (r.modifyHost host f).entries.Ordered := ordered.modify host _
  apply (ordered_remaining nextOrdered host).ext (ordered_remaining ordered host)
  intro key
  rw [find?_remaining nextOrdered, find?_remaining ordered, find?_modifyHost ordered]
  split
  · rename_i here
    subst here
    rcases r.entries.find? key with _ | found | owner
    · rfl
    · -- the entry is the host itself, and leaves
      simp [HostEntry.modify, Option.filter_some]
    · rfl
  · rfl

theorem remaining_insertAlias (ordered : r.entries.Ordered) (host name : String) :
    (r.insertAlias host name).value.2.remaining host = r.remaining host := by
  rw [value_insertAlias]
  split
  · rename_i entries inserted
    have nextOrdered : ({ r with entries } : Router H A W).entries.Ordered :=
      ordered.insert? inserted
    have own : (HostEntry.aliasOf host : HostEntry H A W).belongsTo host name = true :=
      beq_self_eq_true host
    exact (remaining_modifyHost nextOrdered _).trans (remaining_insert ordered inserted own)
  · split <;> rfl

/-- Nothing leads to a name that is free, so all of the table stays. -/
theorem remaining_of_free (sound : r.Sound) (free : r.entries.find? host = none) :
    r.remaining host = r.entries := by
  have ordered := sound.wellFormed.ordered
  apply (ordered_remaining ordered host).ext ordered
  intro key
  rw [find?_remaining ordered]
  rcases there : r.entries.find? key with _ | found | owner
  · rfl
  · have away : key ≠ host := by
      rintro rfl
      cases free.symm.trans there
    simp [away]
  · have away : owner ≠ host := sound.coherent.ne_of_find?_eq_none free there
    simp [away]

variable [DecidableEq A] [DecidableEq W]

/-- Whatever the list of aliases contains, the host is there afterwards, and what does
not belong to it is as it was. -/
theorem remaining_addAliases (sound : r.Sound) {owner : Host H A W}
    (owned : r.host? host = some owner) (names : List String) :
    (r.addAliases host names).value.remaining host = r.remaining host ∧
      ∃ owner, (r.addAliases host names).value.host? host = some owner := by
  induction names generalizing r owner with
  | nil => exact ⟨rfl, owner, owned⟩
  | cons name rest kept =>
    have grown := (mayEdit_insertAlias owned name).edits.sound sound
    obtain ⟨owner', owned'⟩ := host?_insertAlias sound owned (normalizeHostName name)
    obtain ⟨same, there⟩ := kept grown owned'
    rw [value_addAliases_cons]
    exact ⟨same.trans (remaining_insertAlias sound.wellFormed.ordered host _), there⟩

omit [DecidableEq A] [DecidableEq W] in
/-- The index sends nobody to a host that is not there. -/
theorem Indexed.forgetHost_of_free (indexed : r.Indexed) (free : r.entries.find? host = none) :
    r.index.forgetHost host = r.index := by
  have places : (r.index.forgetHost host).place? = r.index.place? := by
    funext target
    rw [TargetIndex.place?_forgetHost]
    cases found : r.index.place? target with
    | none => rfl
    | some place =>
      have there := indexed target place found
      have away : place.host ≠ host := by
        rintro rfl
        rw [deployed_ledger, host?_of_find?_eq_none free] at there
        cases there
      rw [Option.filter_some, if_pos (bne_iff_ne.2 away)]
  exact congrArg TargetIndex.mk places

omit [DecidableEq A] [DecidableEq W] in
theorem removeHost_known {owner : Host H A W}
    (known : r.host? (normalizeHostName name) = some owner) :
    (r.removeHost name).value =
      (true, { r with
        entries := r.remaining (normalizeHostName name)
        index := r.index.forgetHost (normalizeHostName name) }) := by
  rw [value_removeHost, known]
  rfl

/-- A new host leaves with exactly what came with it. -/
theorem Sound.removeHost_of_added [DecidableEq H] (sound : r.Sound) (indexed : r.Indexed)
    {aliases : List String} {target : H}
    (added : (r.addHost name aliases target).value.1 = .added) :
    ((r.addHost name aliases target).value.2.removeHost name).value = (true, r) := by
  have ordered := sound.wellFormed.ordered
  have free : r.entries.find? (normalizeHostName name) = none := by
    rw [value_addHost] at added
    split at added
    · cases added
    · split at added <;> cases added
    · assumption
  obtain ⟨entries, inserted, answer⟩ := addHost_free ordered free aliases target
  have entered : Edit r { r with entries } := .enterHost inserted
  obtain ⟨same, owner, there⟩ := remaining_addAliases (entered.sound sound)
    (host?_of_insert? ordered inserted) aliases
  have table := (same.trans (remaining_insert ordered inserted (beq_self_eq_true _))).trans
    (remaining_of_free sound free)
  have default := (renames_addHost sound name aliases target).defaultHost
  have index := index_addHost r name aliases target
  rw [answer] at default index ⊢
  rw [removeHost_known there, table, default, index, indexed.forgetHost_of_free free]

/-! ## Versions -/

/-- `next` lacks what `r` has deployed at one place. -/
structure Vacates (r next : Router H A W) (place : Coordinates) : Prop where
  sound : next.Sound
  listing : next.listing = r.listing
  defaultHost : next.defaultHost = r.defaultHost
  version? : ∀ other, next.version? other = if other = place then none else r.version? other

omit [DecidableEq A] [DecidableEq W] in
/-- A version that comes to a free place and goes leaves the host table as it was. -/
theorem Vacates.entries_eq {middle : Router H A W} {place : Coordinates} {version : Version A W}
    (vacates : Vacates middle next place) (places : Places r middle place version)
    (sound : r.Sound) (free : r.version? place = none) : next.entries = r.entries := by
  have default := vacates.defaultHost.trans places.defaultHost
  have ordered : ({ next with index := r.index } : Router H A W).WellFormed :=
    vacates.sound.wellFormed.congr rfl
  have versions (other : Coordinates) : next.version? other = r.version? other := by
    rw [vacates.version?, places.version?]
    split
    · rename_i here
      rw [here, free]
    · rfl
  have whole : ({ next with index := r.index } : Router H A W) = r :=
    sound.wellFormed.ext ordered (vacates.listing.trans places.listing) versions default rfl
  change ({ next with index := r.index } : Router H A W).entries = r.entries
  rw [whole]

/-- Withdrawing a version that is deployed takes it away and nothing else. -/
theorem undeploy_deployed (sound : r.Sound) {place : Coordinates} {version : Version A W}
    (deployed : r.version? (stored place) = some version) :
    ∃ next, (r.undeploy place).value = (true, next) ∧ Vacates r next (stored place) ∧
      next.index = r.index.forget version.target (stored place) := by
  obtain ⟨owner, application, known, mounted, there⟩ := version?_eq_some_iff.1 deployed
  have ordered := sound.wellFormed.ordered
  have hostOrdered := sound.wellFormed.of_host? known
  obtain ⟨left, erased⟩ := (hostOrdered.of_find? mounted).ordered.exists_erase? there
  have edit := Edit.undeploy known mounted there erased
  have listed := listing_modifyMounts ordered (stored place).host fun mounts =>
    if left.isEmpty then (mounts.remove? place.path).getD mounts
    else mounts.modifyVersions place.path fun _ => left
  have taken := version?_modifyMounts_update (f := fun mounts =>
    if left.isEmpty then (mounts.remove? place.path).getD mounts
    else mounts.modifyVersions place.path fun _ => left)
    ordered known (hostOrdered.version?_withdraw mounted erased)
  refine ⟨{ r.modifyMounts (stored place).host fun mounts =>
      if left.isEmpty then (mounts.remove? place.path).getD mounts
      else mounts.modifyVersions place.path fun _ => left with
    index := r.index.forget version.target (stored place) }, ?_, ?_, rfl⟩
  · simp only [stored] at known mounted there erased ⊢
    simp only [value_undeploy, known, mounted, there, erased]
    rfl
  · exact { sound := edit.sound sound, listing := listed, defaultHost := rfl, version? := taken }

variable [DecidableEq H]

/-- What is added to a host that is there goes to a place that was free. -/
theorem Sound.places_of_added (sound : r.Sound) {owner : Host H A W}
    (known : r.host? (normalizeHostName host) = some owner) {hostTarget : H}
    {deployment : Deployment A W}
    (added : (r.deploy host hostTarget deployment).value.1 = .ok .added) :
    r.version? ⟨normalizeHostName host, deployment.path, deployment.version⟩ = none ∧
      ∃ next handlers, (r.deploy host hostTarget deployment).value = (.ok .added, next) ∧
        Places r next ⟨normalizeHostName host, deployment.path, deployment.version⟩
          (deployment.publication handlers) ∧
        next.index = r.index.record deployment.target
          ⟨normalizeHostName host, deployment.path, deployment.version⟩ := by
  cases gathered : (gather deployment.path .empty deployment.handlers).value with
  | error refusal =>
    rw [value_deploy, gathered] at added
    cases added
  | ok handlers =>
    cases taken : r.version? ⟨normalizeHostName host, deployment.path, deployment.version⟩ with
    | some existing =>
      rw [version?, known, Option.bind_some] at taken
      rw [value_deploy, gathered, host?_eq_some_iff.1 known] at added
      simp only [value_deployOn_taken (sound.wellFormed.of_host? known) taken] at added
      have answer := Except.ok.inj added
      split at answer <;> cases answer
    | none =>
      obtain ⟨next, done, places, index⟩ :=
        deploy_free sound known deployment taken gathered hostTarget
      exact ⟨rfl, next, handlers, done, places, index⟩

/-- The copies that names hold are what is read through their hosts, and no others are
ever written. -/
theorem Reachable.copied_iff (reachable : r.Reachable) {copies : Copies A W} :
    r.Copied copies ↔ copies = r.shown? := by
  constructor
  · exact Copied.eq_shown?
  · rintro rfl
    obtain ⟨written, copied⟩ := reachable.exists_copied
    exact copied.eq_shown? ▸ copied

/-! ## Registrations -/

/-- **Withdrawing what was just registered undoes the registration.** For a host and
for an alias the router is the one it was, whatever the list of aliases contained.
For a version on a host that is there the host table is, nesting bounds and copies
included, and the index but for the target, which it has lost. -/
theorem Reachable.registrations_undone (reachable : r.Reachable) :
    (∀ name aliases target,
      (r.run (.addHost name aliases target)).value.1 = .registration .added →
      ((r.after (.addHost name aliases target)).run (.removeHost name)).value = (.flag true, r)) ∧
    (∀ host name,
      (r.run (.addAlias host name)).value.1 = .registration .added →
      ((r.after (.addAlias host name)).run (.removeAlias name)).value = (.flag true, r)) ∧
    ∀ host hostTarget deployment, (r.host? (normalizeHostName host)).isSome →
      (r.run (.deploy host hostTarget deployment)).value.1 = .registration .added →
      ∃ undone,
        ((r.after (.deploy host hostTarget deployment)).run
          (.undeploy ⟨host, deployment.path, deployment.version⟩)).value = (.flag true, undone) ∧
        undone.entries = r.entries ∧ undone.defaultHost = r.defaultHost ∧
        (∀ copies, undone.Copied copies ↔ r.Copied copies) ∧
        ∀ target, undone.index.place? target =
          if target = deployment.target then none else r.index.place? target := by
  have sound := reachable.sound
  refine ⟨?_, ?_, ?_⟩
  · intro name aliases target added
    have undone := sound.removeHost_of_added reachable.indexed (Reply.registration.inj added)
    exact congrArg (Prod.map Reply.flag id) undone
  · intro host name added
    have undone := sound.removeAlias_of_added (Reply.ofRegistration_eq_registration_iff.1 added)
    exact congrArg (Prod.map Reply.flag id) undone
  · intro host hostTarget deployment registered added
    obtain ⟨owner, known⟩ := Option.isSome_iff_exists.1 registered
    obtain ⟨free, middle, handlers, done, places, recorded⟩ :=
      sound.places_of_added known (Reply.ofRegistration_eq_registration_iff.1 added)
    have after : r.after (.deploy host hostTarget deployment) = middle := congrArg Prod.snd done
    have there : middle.version? (stored ⟨host, deployment.path, deployment.version⟩) =
        some (deployment.publication handlers) := (places.version? _).trans (if_pos rfl)
    obtain ⟨undone, answer, vacates, forgotten⟩ := undeploy_deployed places.sound there
    have table := vacates.entries_eq places sound free
    have default := vacates.defaultHost.trans places.defaultHost
    have ran : ((r.after (.deploy host hostTarget deployment)).run
        (.undeploy ⟨host, deployment.path, deployment.version⟩)).value = (.flag true, undone) := by
      rw [after]
      exact congrArg (Prod.map Reply.flag id) answer
    have nextReachable : undone.Reachable := by
      have reached := (reachable.run (.deploy host hostTarget deployment)).run
        (.undeploy ⟨host, deployment.path, deployment.version⟩)
      rw [Router.after, ran] at reached
      exact reached
    refine ⟨undone, ran, table, default, fun copies => ?_, fun target => ?_⟩
    · rw [nextReachable.copied_iff, reachable.copied_iff, shown?_of_entries_eq table]
    · rw [forgotten, recorded, TargetIndex.place?_forget, TargetIndex.place?_record]
      by_cases here : target = deployment.target
      · simp [here, Deployment.publication, stored]
      · simp [here, Deployment.publication]

/-- A host with an alias and two applications, and another host. -/
def twoHosts : Router Nat Nat Nat :=
  runAll empty [.addHost "h" ["w"] 0, .deploy "h" 0 { path := "/a", target := 1 },
    .deploy "h" 0 { path := "/b", target := 2 }, .addHost "taken" [] 5]

/-- A list of aliases with a name twice, the host itself and two names of others; a
host named by its alias; a version below all others, for a target that is deployed. -/
theorem registrations_undone_twoHosts :
    ((twoHosts.after (.addHost "N" ["n", "x", "X", "w", "taken"] 9)).run
        (.removeHost "N")).value = (.flag true, twoHosts) ∧
      ((twoHosts.after (.addAlias "w" "v")).run (.removeAlias "v")).value =
        (.flag true, twoHosts) ∧
      ∃ undone, ((twoHosts.after (.deploy "h" 0 { path := "/a/b/c", target := 1 })).run
          (.undeploy ⟨"h", "/a/b/c", ""⟩)).value = (.flag true, undone) ∧
        undone.entries = twoHosts.entries ∧ undone.index.place? 1 = none ∧
        undone.index.place? 2 = some ⟨"h", "/b", ""⟩ := by
  have reachable : twoHosts.Reachable := ⟨_, rfl⟩
  obtain ⟨hosts, aliases, versions⟩ := reachable.registrations_undone
  obtain ⟨undone, ran, table, _, _, index⟩ := versions "h" 0 { path := "/a/b/c", target := 1 }
    (by decide +kernel) (by decide +kernel)
  have other : twoHosts.index.place? 2 = some ⟨"h", "/b", ""⟩ := by decide +kernel
  have hostUndone := hosts "N" ["n", "x", "X", "w", "taken"] 9 (by decide +kernel)
  have aliasUndone := aliases "w" "v" (by decide +kernel)
  exact ⟨hostUndone, aliasUndone, undone, ran, table, (index 1).trans (if_pos rfl),
    (index 2).trans ((if_neg (by decide)).trans other)⟩

end Router

end VirtualHosting
