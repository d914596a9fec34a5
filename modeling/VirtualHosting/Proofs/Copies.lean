/-
# Proofs.Copies — a copy of its host's applications for every name

What is mounted behind an alias is read through its host. The other way is to
let every name hold a copy: a new alias is handed its host's, and whatever changes
on a host is written to the host and along its list of aliases. `Copied` says what
each edit writes, and nothing else ever is. The copies stay exact all the same,
since the list of a host names its aliases, all of them and nobody else.

* `shown?_modifyMounts`: a change of a host is seen at the host and along its list;
* `Copied.eq_shown?`: every copy is what is read through the host;
* `Edit.exists_copied`, `Reachable.exists_copied`: copies can be kept throughout;
* `aliases_insertAlias_attach`, `aliases_removeAlias_detach`: so can lists of alias
  records, told apart by more than their names.
-/
import VirtualHosting.Proofs.Abstraction

namespace VirtualHosting

set_option autoImplicit false

variable {H A W : Type}

/-- What the names of a table hold, each by itself. -/
abbrev Copies (A W : Type) :=
  String → Option (Mounts A W)

/-- Hands something to some names. -/
def Copies.write (copies : Copies A W) (names : List String) (value : Option (Mounts A W)) :
    Copies A W :=
  fun name => if name ∈ names then value else copies name

theorem Copies.write_singleton (copies : Copies A W) (name : String)
    (value : Option (Mounts A W)) (other : String) :
    copies.write [name] value other = if other = name then value else copies other := by
  simp only [write, List.mem_singleton]

theorem Ledger.names_enter (l : Ledger H A) (name : String) (standing : Standing H)
    (key : String) :
    (l.enter name standing).names key = if key = name then some standing else l.names key :=
  Function.update_apply _ _ _ _

namespace Router

variable {r next : Router H A W} {name host : String} {owner : Host H A W}

/-! ## Reading through the host -/

/-- The name of the host behind a name. -/
def realName? (r : Router H A W) (name : String) : Option String :=
  (r.ledger.names name).map (·.realName name)

/-- What is mounted behind a name. -/
def shown? (r : Router H A W) (name : String) : Option (Mounts A W) :=
  (r.realName? name).bind fun host => (r.host? host).map (·.mounts)

theorem realName?_eq_some_iff :
    r.realName? name = some host ↔
      ∃ entry, r.entries.find? name = some entry ∧ entry.realName name = host := by
  simp only [realName?, names_ledger, Option.map_map, Option.map_eq_some_iff, Function.comp_apply,
    HostEntry.realName_standing]

/-- A host and its list are the names that lead to it. -/
theorem Sound.mem_cons_aliases_iff (sound : r.Sound) (known : r.host? host = some owner) :
    name ∈ host :: owner.aliases ↔ r.realName? name = some host := by
  rw [host?_eq_some_iff] at known
  rw [realName?_eq_some_iff, List.mem_cons, sound.coherent.listed host owner known]
  constructor
  · rintro (rfl | there)
    · exact ⟨_, known, rfl⟩
    · exact ⟨_, there, rfl⟩
  · rintro ⟨_ | _, there, rfl⟩
    · exact .inl rfl
    · exact .inr there

theorem shown?_eq_of_realName? (known : r.host? host = some owner)
    (leads : r.realName? name = some host) : r.shown? name = some owner.mounts := by
  rw [shown?, leads, Option.bind_some, known, Option.map_some]

/-- A change of a host is seen at the host and along its list, and nowhere else. -/
theorem shown?_modifyMounts (sound : r.Sound) (known : r.host? host = some owner)
    (f : Mounts A W → Mounts A W) (name : String) :
    (r.modifyMounts host f).shown? name =
      if name ∈ host :: owner.aliases then some (f owner.mounts) else r.shown? name := by
  have ordered := sound.wellFormed.ordered
  have leads : (r.modifyMounts host f).realName? name = r.realName? name := by
    rw [realName?, ledger_modifyMounts ordered known, realName?]
  rw [shown?, leads]
  split
  · rename_i family
    rw [(sound.mem_cons_aliases_iff known).1 family, Option.bind_some,
      host?_modifyMounts ordered, if_pos rfl, known]
    rfl
  · rename_i stranger
    rw [sound.mem_cons_aliases_iff known] at stranger
    rw [shown?]
    cases behind : r.realName? name with
    | none => rfl
    | some other =>
      have away : other ≠ host := fun same => stranger (same ▸ behind)
      rw [Option.bind_some, Option.bind_some, host?_modifyMounts ordered, if_neg away]

/-! ## Names come and go -/

/-- Only mounts and the names that lead to them matter. -/
theorem shown?_congr (leads : ∀ name, next.realName? name = r.realName? name)
    (mounts : ∀ name, (next.host? name).map (·.mounts) = (r.host? name).map (·.mounts)) :
    next.shown? = r.shown? := by
  funext name
  rw [shown?, shown?, leads]
  exact congrArg _ (funext mounts)

theorem shown?_modifyAliases (ordered : r.entries.Ordered) (name : String)
    (f : List String → List String) :
    (r.modifyHost name fun host => { host with aliases := f host.aliases }).shown? = r.shown? := by
  refine shown?_congr (fun key => ?_) fun key => ?_
  · rw [realName?, ledger_modifyAliases ordered, realName?]
  · rw [host?_modifyHost ordered]
    split
    · rw [Option.map_map]
      rfl
    · rfl

/-- A name that leads anywhere leads to a host. -/
theorem Sound.exists_host_of_realName? (sound : r.Sound) (leads : r.realName? name = some host) :
    ∃ owner, r.host? host = some owner := by
  obtain ⟨entry, there, rfl⟩ := realName?_eq_some_iff.1 leads
  exact sound.exists_realName there

theorem realName?_enterHost (ordered : r.entries.Ordered) {target : H}
    {entries : Table (HostEntry H A W)}
    (inserted : r.entries.insert? name (.real { target }) = some entries) (other : String) :
    ({ r with entries } : Router H A W).realName? other =
      if other = name then some name else r.realName? other := by
  rw [realName?, ledger_enterHost ordered inserted, Ledger.names_enter]
  split
  · rename_i here
    rw [here]
    rfl
  · rfl

/-- A new host has nothing mounted on it, and no name leads to it yet. -/
theorem shown?_enterHost (sound : r.Sound) {target : H} {entries : Table (HostEntry H A W)}
    (inserted : r.entries.insert? name (.real { target }) = some entries) (other : String) :
    ({ r with entries } : Router H A W).shown? other =
      if other = name then some .empty else r.shown? other := by
  have ordered := sound.wellFormed.ordered
  have reading := ordered.find?_insert? inserted
  have unknown := host?_eq_none_of_insert? ordered inserted
  have leads := realName?_enterHost ordered inserted other
  split
  · rename_i here
    rw [if_pos here] at leads
    exact shown?_eq_of_realName? (host?_of_insert? ordered inserted) leads
  · rename_i elsewhere
    rw [if_neg elsewhere] at leads
    rw [shown?, shown?, leads]
    cases behind : r.realName? other with
    | none => rfl
    | some owner =>
      obtain ⟨known, there⟩ := sound.exists_host_of_realName? behind
      have away : owner ≠ name := by
        rintro rfl
        cases unknown.symm.trans there
      rw [Option.bind_some, Option.bind_some,
        host?_congr (r := r) ((reading owner).trans (if_neg away))]

/-- A new alias shows what its host shows. -/
theorem shown?_enterAlias (ordered : r.entries.Ordered) (owned : r.host? host = some owner)
    {entries : Table (HostEntry H A W)}
    (inserted : r.entries.insert? name (.aliasOf host) = some entries) (other : String) :
    ({ r with entries } : Router H A W).shown? other =
      if other = name then r.shown? host else r.shown? other := by
  have hosts := host?_enterAlias ordered inserted
  have entered := ledger_insert ordered inserted fun _ real => by cases real
  have leads : ({ r with entries } : Router H A W).realName? other =
      if other = name then some host else r.realName? other := by
    rw [realName?, entered, Ledger.names_enter]
    split <;> rfl
  have itself : r.realName? host = some host :=
    realName?_eq_some_iff.2 ⟨_, host?_eq_some_iff.1 owned, rfl⟩
  rw [shown?, leads]
  split
  · rw [shown?_eq_of_realName? owned itself, Option.bind_some, hosts, owned]
    rfl
  · simp only [hosts]
    rfl

/-- Nothing is left behind an alias that leaves. -/
theorem shown?_dropAlias (ordered : r.entries.Ordered)
    (known : r.entries.find? name = some (.aliasOf host)) {entries : Table (HostEntry H A W)}
    (erased : r.entries.erase? name = some entries) (other : String) :
    ({ r with entries } : Router H A W).shown? other =
      if other = name then none else r.shown? other := by
  have hosts := host?_dropAlias ordered known erased
  rw [shown?, realName?, ledger_erase ordered known erased]
  dsimp only
  rw [Function.update_apply]
  split
  · rfl
  · simp only [hosts]
    rfl

/-- Nothing is left behind a host that leaves, nor behind its aliases. -/
theorem shown?_dropHost (sound : r.Sound) (known : r.host? host = some owner)
    (index : TargetIndex A) (other : String) :
    ({ r with
      entries := r.entries.filter fun e => !e.2.belongsTo host e.1
      index } : Router H A W).shown? other =
      if other ∈ host :: owner.aliases then none else r.shown? other := by
  have ordered := sound.wellFormed.ordered
  have leads : ({ r with
      entries := r.entries.filter fun e => !e.2.belongsTo host e.1
      index } : Router H A W).realName? other = (r.realName? other).filter (· != host) := by
    rw [realName?, ledger_leave ordered, realName?]
    dsimp only
    cases r.ledger.names other with
    | none => rfl
    | some standing =>
      simp only [Option.filter_some, Option.map_some]
      split <;> rfl
  rw [shown?, leads]
  simp only [sound.mem_cons_aliases_iff known, host?_leave ordered]
  cases behind : r.realName? other with
  | none => simp [shown?, behind]
  | some real =>
    by_cases here : real = host
    · simp [here]
    · have stays : (some real).filter (· != host) = some real := by
        rw [Option.filter_some, if_pos (bne_iff_ne.2 here)]
      simp [stays, here, shown?, behind]

/-! ## Lists of records

Two aliases of one name are still two: a list of records gains a new one before it is
known whether its name is free, and loses that very one if it is not. -/

namespace AliasRecords

variable {I : Type} [DecidableEq I] {records : List (I × String)} {mark : I}

/-- The list with a new record at its end. -/
def attach (records : List (I × String)) (mark : I) (name : String) : List (I × String) :=
  records ++ [(mark, name)]

/-- The list without the record of that mark, whatever other records are called. -/
def detach (records : List (I × String)) (mark : I) : List (I × String) :=
  records.filter fun record => record.1 ≠ mark

/-- **Detaching undoes attaching**, also where the name was on the list before. -/
theorem detach_attach (new : mark ∉ records.map (·.1)) (name : String) :
    detach (attach records mark name) mark = records := by
  have others : ∀ record ∈ records, decide (record.1 ≠ mark) = true := by
    intro record listed
    refine decide_eq_true fun same => new ?_
    rw [← same]
    exact List.mem_map_of_mem listed
  simp only [detach, attach, List.filter_append, List.filter_eq_self.2 others]
  simp

/-- A record that is detached takes its name along. Where no name is listed twice, this
erases the name from the list of names. -/
theorem names_detach (marks : (records.map (·.1)).Nodup) (names : (records.map (·.2)).Nodup)
    {name : String} (listed : (mark, name) ∈ records) :
    (detach records mark).map (·.2) = (records.map (·.2)).erase name := by
  rw [names.erase_eq_filter, List.filter_map, detach]
  refine congrArg _ (List.filter_congr fun record there => ?_)
  have marked : record.1 = mark ↔ record = (mark, name) :=
    ⟨List.inj_on_of_nodup_map marks there listed, fun same => by rw [same]⟩
  have named : record.2 = name ↔ record = (mark, name) :=
    ⟨List.inj_on_of_nodup_map names there listed, fun same => by rw [same]⟩
  rw [Bool.eq_iff_iff]
  simp only [Function.comp_apply, bne_iff_ne, ne_eq, decide_eq_true_eq, marked, named]

end AliasRecords

section AliasRecords

open AliasRecords

variable {I : Type} [DecidableEq I] {records : List (I × String)} {mark : I}

/-- **A new alias is attached first** and detached again if its name is taken. What that
leaves of the list is what the host lists after the call. -/
theorem aliases_insertAlias_attach (ordered : r.entries.Ordered)
    (known : r.host? host = some owner) (names : records.map (·.2) = owner.aliases)
    (new : mark ∉ records.map (·.1)) (name : String) :
    ((r.insertAlias host name).value.2.host? host).map (·.aliases) =
      some ((if (r.insertAlias host name).value.1 = .added then attach records mark name
        else detach (attach records mark name) mark).map (·.2)) := by
  rw [value_insertAlias, detach_attach new]
  cases inserted : r.entries.insert? name (.aliasOf host) with
  | some entries =>
    have nextOrdered : ({ r with entries } : Router H A W).entries.Ordered :=
      ordered.insert? inserted
    dsimp only
    rw [host?_modifyHost nextOrdered, if_pos rfl, if_pos rfl, host?_enterAlias ordered inserted,
      known, Option.map_some, Option.map_some, attach, List.map_append, names]
    rfl
  | none =>
    dsimp only
    split <;> simp [known, names]

/-- An alias is detached by its mark when it leaves. -/
theorem aliases_removeAlias_detach (sound : r.Sound) {name : String}
    (leads : r.entries.find? (normalizeHostName name) = some (.aliasOf host))
    (known : r.host? host = some owner) (names : records.map (·.2) = owner.aliases)
    (marks : (records.map (·.1)).Nodup) (listed : (mark, normalizeHostName name) ∈ records) :
    ((r.removeAlias name).value.2.host? host).map (·.aliases) =
      some ((detach records mark).map (·.2)) := by
  have ordered := sound.wellFormed.ordered
  have distinct : (records.map (·.2)).Nodup :=
    names ▸ sound.coherent.nodup host owner (host?_eq_some_iff.1 known)
  obtain ⟨entries, erased⟩ := ordered.exists_erase? leads
  have nextOrdered : ({ r with entries } : Router H A W).entries.Ordered :=
    ordered.erase? erased
  rw [value_removeAlias, leads, names_detach marks distinct listed, names]
  dsimp only
  rw [erased]
  dsimp only
  rw [host?_modifyHost nextOrdered, if_pos rfl, host?_dropAlias ordered leads erased, known]
  rfl

end AliasRecords

/-! ## Keeping copies -/

variable [DecidableEq A] [DecidableEq W] {copies : Copies A W}

/-- The copies that have been written by the time a router has come about. -/
inductive Copied : Router H A W → Copies A W → Prop where
  | empty : Copied empty fun _ => none
  | same {r next : Router H A W} {copies : Copies A W} (copied : Copied r copies)
      (edit : Edit r next) (same : next.entries = r.entries) : Copied next copies
  | enterHost {r : Router H A W} {copies : Copies A W} {name : String} {target : H}
      {entries : Table (HostEntry H A W)} (copied : Copied r copies)
      (edit : Edit r { r with entries })
      (inserted : r.entries.insert? name (.real { target }) = some entries) :
      Copied { r with entries } (copies.write [name] (some .empty))
  /-- A new alias is handed the copy of its host, and comes onto its list. -/
  | enterAlias {r next : Router H A W} {copies : Copies A W} {name host : String}
      {owner : Host H A W} {entries : Table (HostEntry H A W)} (copied : Copied r copies)
      (edit : Edit r next) (owned : r.host? host = some owner)
      (inserted : r.entries.insert? name (.aliasOf host) = some entries)
      (listed : next = ({ r with entries } : Router H A W).modifyHost host
        fun h => { h with aliases := h.aliases ++ [name] }) :
      Copied next (copies.write [name] (copies host))
  | dropHost {r next : Router H A W} {copies : Copies A W} {host : String} {owner : Host H A W}
      (copied : Copied r copies) (edit : Edit r next) (known : r.host? host = some owner)
      (left : next = { r with
        entries := r.entries.filter fun e => !e.2.belongsTo host e.1
        index := r.index.forgetHost host }) :
      Copied next (copies.write (host :: owner.aliases) none)
  | dropAlias {r next : Router H A W} {copies : Copies A W} {name host : String}
      {entries : Table (HostEntry H A W)} (copied : Copied r copies) (edit : Edit r next)
      (known : r.entries.find? name = some (.aliasOf host))
      (erased : r.entries.erase? name = some entries)
      (unlisted : next = ({ r with entries } : Router H A W).modifyHost host
        fun h => { h with aliases := h.aliases.erase name }) :
      Copied next (copies.write [name] none)
  /-- A change of a host goes to the host and along its list. -/
  | publish {r next : Router H A W} {copies : Copies A W} {host : String} {owner : Host H A W}
      (f : Mounts A W → Mounts A W) (copied : Copied r copies) (edit : Edit r next)
      (known : r.host? host = some owner)
      (changed : next.entries = (r.modifyMounts host f).entries) :
      Copied next (copies.write (host :: owner.aliases) ((copies host).map f))

theorem Copied.sound (copied : Copied r copies) : r.Sound := by
  induction copied with
  | empty => exact sound_empty
  | same _ edit _ sound | enterHost _ edit _ sound | enterAlias _ edit _ _ _ sound
  | dropHost _ edit _ _ sound | dropAlias _ edit _ _ _ sound | publish _ _ edit _ _ sound =>
    exact edit.sound sound

omit [DecidableEq A] [DecidableEq W] in
/-- Reading looks at the host table alone. -/
theorem shown?_of_entries_eq (same : next.entries = r.entries) : next.shown? = r.shown? := by
  refine shown?_congr (fun name => ?_) fun name => ?_
  · rw [realName?, realName?, names_ledger, names_ledger, same]
  · rw [host?_congr (r := r) (by rw [same])]

/-- **Every copy is exact**: it is what is read through the host. -/
theorem Copied.eq_shown? (copied : Copied r copies) : copies = r.shown? := by
  induction copied with
  | empty =>
    funext name
    rw [shown?, realName?, ledger_empty]
    rfl
  | same _ _ same exact_before =>
    rw [exact_before, shown?_of_entries_eq same]
  | enterHost copied _ inserted exact_before =>
    funext other
    rw [shown?_enterHost copied.sound inserted, ← exact_before,
      Copies.write_singleton]
  | @enterAlias r next copies name host owner entries copied _ owned inserted listed exact_before =>
    have ordered := copied.sound.wellFormed.ordered
    have nextOrdered : ({ r with entries } : Router H A W).entries.Ordered :=
      ordered.insert? inserted
    funext other
    rw [listed, shown?_modifyAliases nextOrdered host (· ++ [name]),
      shown?_enterAlias ordered owned inserted, ← exact_before,
      Copies.write_singleton]
  | dropHost copied _ known left exact_before =>
    funext other
    rw [left, shown?_dropHost copied.sound known, ← exact_before, Copies.write]
  | @dropAlias r next copies name host entries copied _ known erased unlisted exact_before =>
    have ordered := copied.sound.wellFormed.ordered
    have nextOrdered : ({ r with entries } : Router H A W).entries.Ordered :=
      ordered.erase? erased
    funext other
    rw [unlisted, shown?_modifyAliases nextOrdered host (List.erase · name),
      shown?_dropAlias ordered known erased, ← exact_before,
      Copies.write_singleton]
  | @publish r next copies host owner f copied _ known changed exact_before =>
    have own : r.shown? host = some owner.mounts :=
      shown?_eq_of_realName? known
        (realName?_eq_some_iff.2 ⟨_, host?_eq_some_iff.1 known, rfl⟩)
    -- The list names exactly those who lead to the host, so no copy is missed.
    funext other
    rw [shown?_of_entries_eq changed, shown?_modifyMounts copied.sound known, ← exact_before,
      Copies.write, exact_before, own, Option.map_some]

/-- Copies can be kept over every edit. -/
theorem Edit.exists_copied (edit : Edit r next) (copied : Copied r copies) :
    ∃ copies, Copied next copies := by
  cases edit with
  | setDefault name => exact ⟨_, .same copied (.setDefault r name) rfl⟩
  | enterHost inserted => exact ⟨_, .enterHost copied (.enterHost inserted) inserted⟩
  | enterAlias owned inserted =>
    exact ⟨_, .enterAlias copied (.enterAlias owned inserted) owned inserted rfl⟩
  | dropHost known => exact ⟨_, .dropHost copied (.dropHost known) known rfl⟩
  | dropAlias known erased =>
    exact ⟨_, .dropAlias copied (.dropAlias known erased) known erased rfl⟩
  | @deploy _ _ _ _ published known gathered done =>
    exact ⟨_, .publish (fun _ => published) copied (.deploy known gathered done) known rfl⟩
  | @undeploy place _ _ _ remaining known mounted deployed erased =>
    exact ⟨_, .publish (fun mounts =>
      if remaining.isEmpty then (mounts.remove? place.path).getD mounts
      else mounts.modifyVersions place.path fun _ => remaining)
      copied (.undeploy known mounted deployed erased) known rfl⟩
  | @revise place _ f deployed revision =>
    obtain ⟨host, _, known, _, _⟩ := version?_eq_some_iff.1 (find_eq_ok_iff.1 deployed)
    exact ⟨_, .publish (·.modifyVersions place.path (·.modify place.version f))
      copied (.revise deployed revision) known rfl⟩

theorem exists_copied_of_edits (edits : Edits r next) (copied : Copied r copies) :
    ∃ copies, Copied next copies := by
  induction edits with
  | refl => exact ⟨copies, copied⟩
  | tail _ edit before =>
    obtain ⟨copies, copied⟩ := before
    exact edit.exists_copied copied

/-- Copies can be kept over any run of calls. -/
theorem Reachable.exists_copied [DecidableEq H] (reachable : r.Reachable) :
    ∃ copies, Copied r copies := by
  obtain ⟨calls, rfl⟩ := reachable
  suffices run : ∀ (r : Router H A W) (copies : Copies A W), Copied r copies →
      ∃ copies, Copied (r.runAll calls) copies from run empty _ .empty
  induction calls with
  | nil => exact fun _ copies copied => ⟨copies, copied⟩
  | cons call rest kept =>
    intro r copies copied
    obtain ⟨copies, copied⟩ := exists_copied_of_edits (edits_after copied.sound call) copied
    exact kept _ copies copied

end Router

end VirtualHosting
