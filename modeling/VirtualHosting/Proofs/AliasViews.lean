/-
# Proofs.AliasViews — an alias shows what its host shows

A reader of the host table sees an alias beside its host and cannot tell that
only one of them has anything mounted on it. `Mirrors` says what the two views
have in common. It rests on the agreement of entries and alias lists, so it holds
in every reachable router, be the applications of an alias read through its host
or copied to it, and a request for the alias gets the result of a request for the
host.

* `Sound.mirrors`: the view of an alias and the view of its host;
* `resolve_realName`: results do not depend on which of the two was asked for;
* `Reachable.aliases_mirror`: both, for everything the table shows.
-/
import VirtualHosting.Proofs.Copies
import VirtualHosting.Proofs.Request
import VirtualHosting.Watch

namespace VirtualHosting

set_option autoImplicit false

variable {H A W : Type}

/-- An alias shows the target and the applications of its host, and is on its list
once. -/
structure EntryView.Mirrors (view real : EntryView H A W) : Prop where
  host : real.isAlias = false
  named : view.realHost = some real.name
  target : view.target = real.target
  mounts : view.mounts = real.mounts
  listed : real.aliases.count view.name = 1

namespace Router

variable {r : Router H A W} (w : Watch H A W)

/-! ## What the table shows -/

/-- What is shown of a host. -/
def hostView (name : String) (host : Host H A W) : EntryView H A W where
  name := name
  target := host.target
  isAlias := false
  realHost := some name
  aliases := host.aliases
  mounts := host.mounts

/-- What is shown of an alias. -/
def aliasView (name owner : String) (host : Host H A W) : EntryView H A W where
  name := name
  target := host.target
  isAlias := true
  realHost := some owner
  aliases := []
  mounts := host.mounts

theorem mem_currentViews_iff {view : EntryView H A W} :
    view ∈ w.currentViews r ↔
      ∃ name entry, (name, entry) ∈ r.entries.toList ∧
        w.view? r (Watch.keep name entry) = some view := by
  simp only [Watch.currentViews, List.mem_filterMap, Prod.exists]

theorem view?_keep_real {name : String} {host : Host H A W}
    (known : r.host? name = some host) :
    w.view? r (Watch.keep name (.real host)) = some (hostView name host) := by
  simp only [Watch.keep, Watch.view?, Watch.host?, known]
  rfl

theorem view?_keep_aliasOf {owner : String} {host : Host H A W}
    (known : r.host? owner = some host) (name : String) :
    w.view? r (Watch.keep name (.aliasOf owner : HostEntry H A W)) =
      some (aliasView name owner host) := by
  simp only [Watch.keep, Watch.view?, Watch.host?, known]
  rfl

theorem hostView_mem (ordered : r.entries.Ordered) {name : String} {host : Host H A W}
    (known : r.host? name = some host) : hostView name host ∈ w.currentViews r :=
  (mem_currentViews_iff w).2 ⟨name, .real host,
    ordered.find?_eq_some_iff.1 (host?_eq_some_iff.1 known), view?_keep_real w known⟩

theorem aliasView_mem (ordered : r.entries.Ordered) {name owner : String} {host : Host H A W}
    (there : r.entries.find? name = some (.aliasOf owner)) (known : r.host? owner = some host) :
    aliasView name owner host ∈ w.currentViews r :=
  (mem_currentViews_iff w).2 ⟨name, .aliasOf owner, ordered.find?_eq_some_iff.1 there,
    view?_keep_aliasOf w known name⟩

/-- A view of an alias is made of its entry and of the host it leads to. -/
theorem Sound.exists_aliasView (sound : r.Sound) {view : EntryView H A W}
    (shown : view ∈ w.currentViews r) (isAlias : view.isAlias = true) :
    ∃ name owner host, r.entries.find? name = some (.aliasOf owner) ∧
      r.host? owner = some host ∧ view = aliasView name owner host := by
  obtain ⟨name, entry, stored, viewed⟩ := (mem_currentViews_iff w).1 shown
  have there := sound.wellFormed.ordered.find?_eq_some_iff.2 stored
  cases entry with
  | real host =>
    rw [view?_keep_real w (host?_eq_some_iff.2 there)] at viewed
    obtain rfl := Option.some.inj viewed
    cases isAlias
  | aliasOf owner =>
    obtain ⟨host, known⟩ := sound.coherent.owned name owner there
    rw [← host?_eq_some_iff] at known
    rw [view?_keep_aliasOf w known] at viewed
    exact ⟨name, owner, host, there, known, (Option.some.inj viewed).symm⟩

/-- **An alias mirrors its host.** -/
theorem Sound.mirrors (sound : r.Sound) {name owner : String} {host : Host H A W}
    (there : r.entries.find? name = some (.aliasOf owner)) (known : r.host? owner = some host) :
    (aliasView name owner host).Mirrors (hostView owner host) where
  host := rfl
  named := rfl
  target := rfl
  mounts := rfl
  listed := by
    rw [host?_eq_some_iff] at known
    have mem := (sound.coherent.listed owner host known name).2 there
    exact List.count_eq_one_of_mem (sound.coherent.nodup owner host known) mem

/-- Whatever is on the list of a host is one of its aliases, and is shown. -/
theorem Sound.exists_view_of_listed (sound : r.Sound) {owner other : String} {host : Host H A W}
    (known : r.host? owner = some host) (mem : other ∈ host.aliases) :
    ∃ view ∈ w.currentViews r,
      view.name = other ∧ view.isAlias = true ∧ view.realHost = some owner := by
  have there := (sound.coherent.listed owner host (host?_eq_some_iff.1 known) other).1 mem
  exact ⟨_, aliasView_mem w sound.wellFormed.ordered there known, rfl, rfl, rfl⟩

/-! ## Requests -/

/-- A request that selects an entry gets what a request for its host gets. -/
theorem Sound.resolve_realName (sound : r.Sound) {host : String} {e : String × HostEntry H A W}
    (selected : r.requestedEntry? host = some e) (named : e.2.realName e.1 ≠ "")
    (uri : String) (requested : Option String) :
    (r.resolve host uri requested).value =
      (r.resolve (e.2.realName e.1) uri requested).value := by
  have there := sound.wellFormed.ordered.find?_eq_some_iff.2 (mem_of_requested selected)
  obtain ⟨serving, known⟩ := sound.exists_realName there
  have behind : r.servingHost? host = some serving := by
    rw [servingHost?, selected, Option.bind_some, ← sound.host?_of_requestedEntry? selected, known]
  have own : r.servingHost? (e.2.realName e.1) = some serving := by
    rw [servingHost?,
      requestedEntry?_of_find? sound.wellFormed (host?_eq_some_iff.1 known) named]
    rfl
  simp only [value_resolve, behind, own, value_resolveOn]

/-- **Every alias the table shows mirrors a host it shows**: with a copy for every
name the two hold the same, the list of the host holds its aliases and nothing
else, and a request that selects the alias gets what a request for the host gets. -/
theorem Reachable.aliases_mirror [DecidableEq H] [DecidableEq A] [DecidableEq W]
    (reachable : r.Reachable) :
    (∃ copies, r.Copied copies) ∧
    ∀ view ∈ w.currentViews r, view.isAlias = true →
      ∃ real ∈ w.currentViews r, view.Mirrors real ∧
        (∀ copies, r.Copied copies →
          copies view.name = some real.mounts ∧ copies real.name = some real.mounts) ∧
        (∀ other ∈ real.aliases, ∃ fellow ∈ w.currentViews r,
          fellow.name = other ∧ fellow.isAlias = true ∧ fellow.realHost = some real.name) ∧
        (real.name ≠ "" → ∀ host entry, r.requestedEntry? host = some (view.name, entry) →
          ∀ uri requested, (r.resolve host uri requested).value =
            (r.resolve real.name uri requested).value) := by
  refine ⟨reachable.exists_copied, ?_⟩
  intro view shown isAlias
  have sound := reachable.sound
  have ordered := sound.wellFormed.ordered
  obtain ⟨name, owner, host, there, known, rfl⟩ := sound.exists_aliasView w shown isAlias
  have leads : r.realName? name = some owner := realName?_eq_some_iff.2 ⟨_, there, rfl⟩
  have itself : r.realName? owner = some owner :=
    realName?_eq_some_iff.2 ⟨_, host?_eq_some_iff.1 known, rfl⟩
  refine ⟨hostView owner host, hostView_mem w ordered known, sound.mirrors there known,
    fun copies copied => ?_, fun other mem => sound.exists_view_of_listed w known mem, ?_⟩
  · rw [copied.eq_shown?]
    exact ⟨shown?_eq_of_realName? known leads, shown?_eq_of_realName? known itself⟩
  · intro named asked entry selected uri requested
    have stored := ordered.find?_eq_some_iff.2 (mem_of_requested selected)
    obtain rfl : entry = .aliasOf owner := Option.some.inj (stored.symm.trans there)
    exact sound.resolve_realName selected named uri requested

/-- A host with one alias from the start and another registered through it later,
after an application. -/
def aliased : Router Nat Nat Nat :=
  runAll empty
    [.addHost "h" ["a"] 0, .deploy "h" 0 { path := "/x", target := 1 }, .addAlias "a" "b"]

theorem aliases_mirror_aliased :
    (∃ view ∈ ({} : Watch Nat Nat Nat).currentViews aliased,
      view.name = "b" ∧ ∃ real ∈ ({} : Watch Nat Nat Nat).currentViews aliased,
        real.name = "h" ∧ view.Mirrors real) ∧
      ∀ uri requested, (aliased.resolve "b" uri requested).value =
        (aliased.resolve "h" uri requested).value := by
  have reachable : aliased.Reachable := ⟨_, rfl⟩
  have shows : ∃ view ∈ ({} : Watch Nat Nat Nat).currentViews aliased,
      view.name = "b" ∧ view.isAlias = true ∧ view.realHost = some "h" := by decide +kernel
  obtain ⟨view, shown, named, isAlias, owned⟩ := shows
  obtain ⟨real, realShown, mirrors, _, _, same⟩ :=
    (reachable.aliases_mirror {}).2 view shown isAlias
  have realName : real.name = "h" := Option.some.inj (mirrors.named.symm.trans owned)
  have selects : (aliased.requestedEntry? "b").map (·.1) = some "b" := by decide +kernel
  obtain ⟨⟨name, entry⟩, selected, rfl⟩ := Option.map_eq_some_iff.1 selects
  refine ⟨⟨view, shown, named, real, realShown, realName, mirrors⟩, fun uri requested => ?_⟩
  rw [← realName]
  exact same (by rw [realName]; decide) "b" entry (named ▸ selected) uri requested

end Router

end VirtualHosting
