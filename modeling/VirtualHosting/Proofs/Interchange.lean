/-
# Proofs.Interchange — registrations may come in any order

A deployment fills a place that is free and leaves one that is taken. A handler does
the same with a slot of its version. So two deployments to different places do not
notice each other, and neither do two handlers for different patterns: either
answers what it would have answered first, and in the end the same is there. Mounts
grow in another order then, and so do nesting bounds, but a router is what it holds
(`Router.WellFormed.ext`). What holds of two calls holds of a list in any order.

* `Interchangeable.replies_eq`, `Interchangeable.runAll_eq`: from two calls to a list;
* `Sound.fills_deploy`, `Sound.places_addHandler`: what one call writes;
* `Sound.version?_runAll_deploy`, `Sound.exists_runAll_addHandler`: what a list of them
  leaves;
* `interchange_deploy`, `interchange_addHandler`: two of them;
* `Reachable.registrations_in_any_order`: any number, in any order.
-/
import VirtualHosting.Proofs.Contents
import VirtualHosting.Proofs.Repetition
import VirtualHosting.Proofs.Slots
import VirtualHosting.Proofs.TargetIndex

namespace VirtualHosting

set_option autoImplicit false

variable {H A W : Type}

/-! ## Calls that interchange -/

namespace Router

variable [DecidableEq H] [DecidableEq A] [DecidableEq W] {r : Router H A W}
  {first second : Call H A W}

/-- Two calls that may come in either order: neither answers otherwise after the
other, and both lead to one router. -/
structure Interchange (r : Router H A W) (first second : Call H A W) : Prop where
  first_reply : ((r.after second).run first).value.1 = (r.run first).value.1
  second_reply : ((r.after first).run second).value.1 = (r.run second).value.1
  after : (r.after first).after second = (r.after second).after first

theorem Interchange.symm (swap : r.Interchange first second) : r.Interchange second first :=
  ⟨swap.second_reply, swap.first_reply, swap.after.symm⟩

/-- Calls of which any two interchange wherever a condition holds that all of them
keep. -/
structure Interchangeable (Holds : Router H A W → Prop) (calls : List (Call H A W)) : Prop where
  keeps : ∀ call ∈ calls, ∀ s, Holds s → Holds (s.after call)
  pairwise : calls.Pairwise fun first second => ∀ s, Holds s → s.Interchange first second

namespace Interchangeable

variable {Holds : Router H A W → Prop} {calls reordered : List (Call H A W)} {call : Call H A W}

theorem of_cons (all : Interchangeable Holds (call :: calls)) : Interchangeable Holds calls :=
  ⟨fun later listed => all.keeps later (List.mem_cons_of_mem _ listed), all.pairwise.of_cons⟩

theorem perm (all : Interchangeable Holds calls) (perm : calls.Perm reordered) :
    Interchangeable Holds reordered where
  keeps call listed := all.keeps call (perm.mem_iff.2 listed)
  pairwise := perm.pairwise all.pairwise fun swap s holds => (swap s holds).symm

/-- Every call answers as if it came first. -/
theorem replies_eq (all : Interchangeable Holds calls) (holds : Holds r) :
    r.replies calls = calls.map fun call => (r.run call).value.1 := by
  induction calls generalizing r with
  | nil => rfl
  | cons call rest answers =>
    have later := answers all.of_cons (all.keeps call List.mem_cons_self r holds)
    have apart := (List.pairwise_cons.1 all.pairwise).1
    rw [replies, later, List.map_cons]
    refine congrArg _ (List.map_congr_left fun other listed => ?_)
    exact (apart other listed r holds).second_reply

/-- All orders lead to one router. -/
theorem runAll_eq (all : Interchangeable Holds calls) (perm : calls.Perm reordered)
    (holds : Holds r) : r.runAll calls = r.runAll reordered := by
  induction perm generalizing r with
  | nil => rfl
  | cons call _ same => exact same all.of_cons (all.keeps call List.mem_cons_self r holds)
  | swap first second rest =>
    have apart := (List.pairwise_cons.1 all.pairwise).1 first List.mem_cons_self
    exact congrArg (runAll · rest) (apart r holds).after
  | trans one _ same same' => exact (same all holds).trans (same' (all.perm one) holds)

end Interchangeable

end Router

/-- What comes of a target where there may be one already. -/
def Registration.over {α : Type} [DecidableEq α] (existing : Option α) (target : α) :
    Registration :=
  match existing with
  | none => .added
  | some known => if known = target then .unchanged else .rejected

/-! ## Deployments -/

/-- A deployment with the host that it goes to. -/
structure Placement (H A W : Type) where
  host : String
  hostTarget : H
  deployment : Deployment A W

namespace Placement

variable (p : Placement H A W)

/-- Where the version is to be. -/
def place : Coordinates :=
  ⟨normalizeHostName p.host, p.deployment.path, p.deployment.version⟩

def toCall : Call H A W :=
  .deploy p.host p.hostTarget p.deployment

/-- The handlers of the version, unless a pattern is malformed. -/
def handlers [DecidableEq W] : Except Refusal (HandlerSet W) :=
  (Router.gather p.deployment.path .empty p.deployment.handlers).value

/-- The version that is offered, unless a pattern is malformed. -/
def offered [DecidableEq W] : Option (Version A W) :=
  p.handlers.toOption.map p.deployment.publication

/-- The version that is offered at one place or another. -/
def offers [DecidableEq W] (place : Coordinates) : Option (Version A W) :=
  if place = p.place then p.offered else none

/-- What the call answers on a host that is there. -/
def answer [DecidableEq A] [DecidableEq W] (existing : Option (Version A W)) : Reply :=
  match p.handlers with
  | .error refusal => .refused refusal
  | .ok _ => .registration (.over (existing.map (·.target)) p.deployment.target)

theorem target_of_offered [DecidableEq W] {p : Placement H A W} {version : Version A W}
    (offered : p.offered = some version) : version.target = p.deployment.target := by
  obtain ⟨handlers, _, rfl⟩ := Option.map_eq_some_iff.1 offered
  rfl

end Placement

namespace Router

/-- `next` is `r` with a version at a place, unless there is one already, and with
its target in the index. -/
structure Fills [DecidableEq A] (r next : Router H A W) (place : Coordinates)
    (offered : Option (Version A W)) : Prop where
  sound : next.Sound
  listing : next.listing = r.listing
  defaultHost : next.defaultHost = r.defaultHost
  version? : ∀ other, next.version? other =
    if other = place then (r.version? place).or offered else r.version? other
  place? : ∀ target, next.index.place? target =
    if r.version? place = none ∧ offered.map (·.target) = some target then some place
    else r.index.place? target

variable [DecidableEq A] {r : Router H A W} {place other : Coordinates}

/-- A router stays as it is where a version is already, or none is offered. -/
theorem Fills.of_settled (sound : r.Sound) {offered : Option (Version A W)}
    (settled : r.version? place ≠ none ∨ offered = none) : r.Fills r place offered where
  sound := sound
  listing := rfl
  defaultHost := rfl
  version? other := by
    split
    · rename_i here
      rw [here]
      rcases settled with taken | rfl
      · exact (Option.or_of_isSome (Option.isSome_iff_ne_none.2 taken)).symm
      · exact Option.or_none.symm
    · rfl
  place? target := by
    rw [if_neg]
    rintro ⟨free, given⟩
    rcases settled with taken | rfl
    · exact taken free
    · cases given

/-- Versions of different targets fill different places in either order. -/
theorem Fills.comm {middle middle' next next' : Router H A W}
    {offered offered' : Option (Version A W)} (one : r.Fills middle place offered)
    (two : middle.Fills next other offered') (one' : r.Fills middle' other offered')
    (two' : middle'.Fills next' place offered) (apart : place ≠ other)
    (targets : ∀ version ∈ offered, ∀ version' ∈ offered', version.target ≠ version'.target) :
    next = next' := by
  have still : middle.version? other = r.version? other := by
    rw [one.version?, if_neg apart.symm]
  have still' : middle'.version? place = r.version? place := by
    rw [one'.version?, if_neg apart]
  apply two'.sound.wellFormed.ext two.sound.wellFormed
  · rw [two.listing, one.listing, two'.listing, one'.listing]
  · intro here
    rw [two.version?, two'.version?, one.version? here, one'.version? here, still, still']
    by_cases atPlace : here = place
    · rw [if_pos atPlace, if_pos atPlace, if_neg fun atOther => apart (atPlace.symm.trans atOther)]
    · rw [if_neg atPlace, if_neg atPlace]
  · rw [two.defaultHost, one.defaultHost, two'.defaultHost, one'.defaultHost]
  · refine congrArg TargetIndex.mk (funext fun target => ?_)
    rw [two.place?, two'.place?, one.place?, one'.place?, still, still']
    by_cases first : r.version? place = none ∧ offered.map (·.target) = some target
    · obtain ⟨version, mem, same⟩ := Option.map_eq_some_iff.1 first.2
      have foreign : ¬(r.version? other = none ∧ offered'.map (·.target) = some target) := by
        rintro ⟨_, second⟩
        obtain ⟨version', mem', same'⟩ := Option.map_eq_some_iff.1 second
        exact targets version mem version' mem' (same.trans same'.symm)
      rw [if_pos first, if_pos first, if_neg foreign]
    · rw [if_neg first, if_neg first]

theorem Fills.of_places {next : Router H A W} {version : Version A W}
    (placed : r.Places next place version) (free : r.version? place = none)
    (index : next.index = r.index.record version.target place) :
    r.Fills next place (some version) where
  sound := placed.sound
  listing := placed.listing
  defaultHost := placed.defaultHost
  version? other := by
    rw [placed.version?, free, Option.none_or]
  place? target := by
    rw [index, TargetIndex.place?_record, free]
    simp [eq_comm]

variable [DecidableEq W] [DecidableEq H] {card : Host H A W}

/-- Nothing comes of deploying where a version is. -/
theorem value_deploy_taken (sound : r.Sound) (p : Placement H A W) {handlers : HandlerSet W}
    (gathered : p.handlers = .ok handlers) {existing : Version A W}
    (there : r.version? p.place = some existing) :
    (r.deploy p.host p.hostTarget p.deployment).value =
      (.ok (.over (some existing.target) p.deployment.target), r) := by
  obtain ⟨owner, known, mounted⟩ := Option.bind_eq_some_iff.1 there
  have found : r.entries.find? (normalizeHostName p.host) = some (.real owner) :=
    host?_eq_some_iff.1 known
  have read : (gather p.deployment.path .empty p.deployment.handlers).value = .ok handlers :=
    gathered
  rw [value_deploy, read, found]
  simp only [value_deployOn_taken (sound.wellFormed.of_host? known) mounted, Registration.over]

theorem value_run_placement (r : Router H A W) (p : Placement H A W) :
    (r.run p.toCall).value =
      (r.deploy p.host p.hostTarget p.deployment).value.map .ofRegistration id := rfl

/-- **A deployment on a host that is there fills its place.** -/
theorem Sound.fills_deploy (sound : r.Sound) (p : Placement H A W)
    (known : r.listing p.place.host = some (.real card)) :
    (r.run p.toCall).value.1 = p.answer (r.version? p.place) ∧
      r.Fills (r.after p.toCall) p.place p.offered := by
  rw [after, value_run_placement, Placement.answer, Placement.offered]
  cases gathered : p.handlers with
  | error refusal =>
    have refused : (gather p.deployment.path .empty p.deployment.handlers).value = .error refusal :=
      gathered
    rw [value_deploy, refused]
    exact ⟨rfl, .of_settled sound (.inr rfl)⟩
  | ok handlers =>
    cases there : r.version? p.place with
    | none =>
      obtain ⟨owner, known, _⟩ := listing_eq_real_iff.1 known
      obtain ⟨next, value, placed, index⟩ :=
        deploy_free sound known p.deployment there gathered p.hostTarget
      rw [value]
      exact ⟨rfl, .of_places placed there index⟩
    | some existing =>
      rw [value_deploy_taken sound p gathered there]
      refine ⟨rfl, .of_settled sound (.inl ?_)⟩
      rw [there]
      exact Option.some_ne_none existing

/-- After a list of deployments there is at every place what was there, or else the
first that was offered. -/
theorem Sound.version?_runAll_deploy (sound : r.Sound) {placements : List (Placement H A W)}
    (known : ∀ p ∈ placements, ∃ card, r.listing p.place.host = some (.real card))
    (place : Coordinates) :
    (r.runAll (placements.map (·.toCall))).version? place =
      (r.version? place).or (placements.findSome? (·.offers place)) := by
  induction placements generalizing r with
  | nil => exact Option.or_none.symm
  | cons p rest filled =>
    rw [List.forall_mem_cons] at known
    obtain ⟨⟨card, there⟩, others⟩ := known
    obtain ⟨_, one⟩ := sound.fills_deploy p there
    have later := filled one.sound (one.listing ▸ others)
    refine later.trans ?_
    rw [one.version?, List.findSome?_cons, Placement.offers]
    by_cases here : place = p.place
    · rw [if_pos here, if_pos here, here, Option.or_assoc]
      cases p.offered <;> rfl
    · rw [if_neg here, if_neg here]

/-- Deployments of different targets to different places interchange. -/
theorem interchange_deploy (sound : r.Sound) {p q : Placement H A W} {card' : Host H A W}
    (known : r.listing p.place.host = some (.real card))
    (known' : r.listing q.place.host = some (.real card')) (places : p.place ≠ q.place)
    (targets : p.deployment.target ≠ q.deployment.target) : r.Interchange p.toCall q.toCall := by
  obtain ⟨answer, one⟩ := sound.fills_deploy p known
  obtain ⟨answer', one'⟩ := sound.fills_deploy q known'
  obtain ⟨later, two⟩ := one.sound.fills_deploy q (one.listing ▸ known')
  obtain ⟨later', two'⟩ := one'.sound.fills_deploy p (one'.listing ▸ known)
  refine ⟨?_, ?_, one.comm two one' two' places fun version mem version' mem' => ?_⟩
  · rw [later', answer, one'.version?, if_neg places]
  · rw [later, answer', one.version?, if_neg places.symm]
  · rw [Placement.target_of_offered mem, Placement.target_of_offered mem']
    exact targets

end Router

/-! ## Handlers -/

/-- The call that adds a handler to the version at a place. -/
def HandlerMapping.toCall (place : Coordinates) (mapping : HandlerMapping W) : Call H A W :=
  .addHandler place mapping.pattern mapping.target mapping.flags

/-- The handler that is offered for one pattern or another. -/
def HandlerMapping.offers (mapping : HandlerMapping W) (q : Pattern) : Option (Handler W) :=
  match Pattern.parse mapping.pattern with
  | .ok p => if q.slot = p.slot then some ⟨mapping.target, mapping.flags⟩ else none
  | .error _ => none

namespace Router

variable [DecidableEq A] [DecidableEq W] [DecidableEq H] {r : Router H A W} {place : Coordinates}
  {version : Version A W} {mapping mapping' : HandlerMapping W} {p p' : Pattern}

theorem value_run_mapping (r : Router H A W) (place : Coordinates) (mapping : HandlerMapping W) :
    (r.run (mapping.toCall place)).value =
      (r.addHandler place mapping.pattern mapping.target mapping.flags).value.map
        .ofRegistration id := rfl

/-- **A handler added to a version fills its slot.** -/
theorem Sound.places_addHandler (sound : r.Sound) (deployed : r.find place = .ok version)
    (read : Pattern.parse mapping.pattern = .ok p) :
    (r.run (mapping.toCall place)).value.1 =
        .registration (.over ((version.handlers.find? p).map (·.target)) mapping.target) ∧
      r.Places (r.after (mapping.toCall place)) (stored place)
        (version.withHandlers (version.handlers.put p ⟨mapping.target, mapping.flags⟩)) ∧
      (r.after (mapping.toCall place)).index = r.index := by
  rw [after, value_run_mapping, value_addHandler, read, deployed, HandlerSet.put]
  dsimp only
  cases held : version.handlers.find? p with
  | none =>
    have added := HandlerSet.add_of_free held mapping.target mapping.flags
    rw [added]
    exact ⟨rfl, places_modifyVersion sound deployed (.handlers (.add added)), rfl⟩
  | some existing =>
    -- the slot is taken, so all that is left to say is for which target
    have same : r.Places r (stored place) version := .refl sound (find_eq_ok_iff.1 deployed)
    rw [HandlerSet.add, held, Option.map_some, Registration.over]
    dsimp only
    by_cases known : existing.target = mapping.target
    · rw [if_pos known, if_pos known]
      exact ⟨rfl, same, rfl⟩
    · rw [if_neg known, if_neg known]
      exact ⟨rfl, same, rfl⟩

/-- After a list of handlers the version has for every pattern what it had, or else the
first that was offered. -/
theorem Sound.exists_runAll_addHandler (sound : r.Sound) (deployed : r.find place = .ok version)
    {mappings : List (HandlerMapping W)}
    (readable : ∀ mapping ∈ mappings, ∃ p, Pattern.parse mapping.pattern = .ok p) :
    ∃ handlers, (r.runAll (mappings.map (·.toCall place))).find place =
        .ok (version.withHandlers handlers) ∧
      ∀ q, handlers.find? q = (version.handlers.find? q).or (mappings.findSome? (·.offers q)) := by
  induction mappings generalizing r version with
  | nil => exact ⟨version.handlers, deployed, fun _ => Option.or_none.symm⟩
  | cons mapping rest filled =>
    rw [List.forall_mem_cons] at readable
    obtain ⟨⟨p, read⟩, others⟩ := readable
    have ordered := (sound.wellFormed.of_version? (find_eq_ok_iff.1 deployed)).handlers
    obtain ⟨_, one, _⟩ := sound.places_addHandler deployed read
    have changed := find_eq_ok_iff.2 ((one.version? _).trans (if_pos rfl))
    obtain ⟨handlers, found, held⟩ := filled one.sound changed others
    refine ⟨handlers, found, fun q => (held q).trans ?_⟩
    simp only [Version.withHandlers, ordered.find?_put, List.findSome?_cons, HandlerMapping.offers,
      read]
    by_cases here : q.slot = p.slot
    · rw [if_pos here, if_pos here, ← HandlerSet.find?_slot _ q, here, HandlerSet.find?_slot,
        Option.or_assoc]
      rfl
    · rw [if_neg here, if_neg here]

/-- Handlers for different patterns interchange. -/
theorem interchange_addHandler (sound : r.Sound) (deployed : r.find place = .ok version)
    (read : Pattern.parse mapping.pattern = .ok p)
    (read' : Pattern.parse mapping'.pattern = .ok p')
    (apart : mapping.pattern ≠ mapping'.pattern) :
    r.Interchange (mapping.toCall place) (mapping'.toCall place) := by
  have slots : p'.slot ≠ p.slot := fun same => apart (Pattern.eq_of_slot_eq read read' same.symm)
  have handlers := (sound.wellFormed.of_version? (find_eq_ok_iff.1 deployed)).handlers
  obtain ⟨answer, one, index⟩ := sound.places_addHandler deployed read
  obtain ⟨answer', one', index'⟩ := sound.places_addHandler deployed read'
  have changed := find_eq_ok_iff.2 ((one.version? _).trans (if_pos rfl))
  have changed' := find_eq_ok_iff.2 ((one'.version? _).trans (if_pos rfl))
  obtain ⟨later, two, index₂⟩ := one.sound.places_addHandler changed read'
  obtain ⟨later', two', index₂'⟩ := one'.sound.places_addHandler changed' read
  refine ⟨?_, ?_, ?_⟩
  · rw [later', answer, Version.withHandlers, handlers.find?_put, if_neg slots.symm]
  · rw [later, answer', Version.withHandlers, handlers.find?_put, if_neg slots]
  · have both := one.trans two
    have both' := one'.trans two'
    apply both'.sound.wellFormed.ext both.sound.wellFormed
    · rw [both.listing, both'.listing]
    · intro other
      rw [both.version?, both'.version?]
      have same := handlers.put_comm slots ⟨mapping.target, mapping.flags⟩
        ⟨mapping'.target, mapping'.flags⟩
      simp only [Version.withHandlers, same]
    · rw [both.defaultHost, both'.defaultHost]
    · rw [index₂, index, index₂', index']

/-! ## Lists -/

/-- Deployments of different targets to different places, on hosts that are there. -/
theorem interchangeable_deploy {placements : List (Placement H A W)}
    (known : ∀ p ∈ placements, ∃ card, r.listing p.place.host = some (.real card))
    (places : (placements.map (·.place)).Nodup)
    (targets : (placements.map (·.deployment.target)).Nodup) :
    Interchangeable (fun s : Router H A W => s.Sound ∧ s.listing = r.listing)
      (placements.map (·.toCall)) where
  keeps call listed s holds := by
    obtain ⟨p, mem, rfl⟩ := List.mem_map.1 listed
    obtain ⟨card, there⟩ := known p mem
    obtain ⟨_, filled⟩ := holds.1.fills_deploy p (holds.2 ▸ there)
    exact ⟨filled.sound, filled.listing.trans holds.2⟩
  pairwise := by
    rw [List.pairwise_map]
    have apart := (List.pairwise_map.1 places).and (List.pairwise_map.1 targets)
    refine apart.imp_of_mem fun {p q} mem mem' different s holds => ?_
    obtain ⟨card, there⟩ := known p mem
    obtain ⟨card', there'⟩ := known q mem'
    exact interchange_deploy holds.1 (holds.2 ▸ there) (holds.2 ▸ there') different.1 different.2

/-- Handlers for different patterns of one version. -/
theorem interchangeable_addHandler {mappings : List (HandlerMapping W)}
    (readable : ∀ mapping ∈ mappings, ∃ p, Pattern.parse mapping.pattern = .ok p)
    (patterns : (mappings.map (·.pattern)).Nodup) (place : Coordinates) :
    Interchangeable (fun s : Router H A W => s.Sound ∧ ∃ version, s.find place = .ok version)
      (mappings.map (·.toCall place)) where
  keeps call listed s holds := by
    obtain ⟨mapping, mem, rfl⟩ := List.mem_map.1 listed
    obtain ⟨sound, version, deployed⟩ := holds
    obtain ⟨p, read⟩ := readable mapping mem
    obtain ⟨_, placed, _⟩ := sound.places_addHandler deployed read
    exact ⟨placed.sound, _, find_eq_ok_iff.2 ((placed.version? _).trans (if_pos rfl))⟩
  pairwise := by
    rw [List.pairwise_map]
    have apart := List.pairwise_map.1 patterns
    refine apart.imp_of_mem fun {mapping mapping'} mem mem' different s holds => ?_
    obtain ⟨sound, version, deployed⟩ := holds
    obtain ⟨p, read⟩ := readable mapping mem
    obtain ⟨p', read'⟩ := readable mapping' mem'
    exact interchange_addHandler sound deployed read read' different

/-- **Registrations may come in any order.** Deployments of different targets to
different places, on hosts that are there, fill the places that are free. In every
order each answers what it would answer by itself, whether it is added, finds its
target or another there, or is refused for a pattern, and all orders lead to one
router: what is deployed where, the nesting of the mounts, the aliases and the index.
The same holds of handlers for different patterns of one version. -/
theorem Reachable.registrations_in_any_order (reachable : r.Reachable) :
    (∀ placements : List (Placement H A W),
      (∀ p ∈ placements, ∃ owner, r.host? p.place.host = some owner) →
      (placements.map (·.place)).Nodup → (placements.map (·.deployment.target)).Nodup →
      (∀ place, (r.runAll (placements.map (·.toCall))).version? place =
        (r.version? place).or (placements.findSome? (·.offers place))) ∧
      ∀ reordered : List (Placement H A W), reordered.Perm placements →
        r.replies (reordered.map (·.toCall)) =
            reordered.map (fun p => (r.run p.toCall).value.1) ∧
          r.runAll (reordered.map (·.toCall)) = r.runAll (placements.map (·.toCall))) ∧
    ∀ place version, r.find place = .ok version → ∀ mappings : List (HandlerMapping W),
      (∀ mapping ∈ mappings, ∃ p, Pattern.parse mapping.pattern = .ok p) →
      (mappings.map (·.pattern)).Nodup →
      (∃ handlers, (r.runAll (mappings.map (·.toCall place))).find place =
          .ok (version.withHandlers handlers) ∧
        ∀ q, handlers.find? q =
          (version.handlers.find? q).or (mappings.findSome? (·.offers q))) ∧
      ∀ reordered : List (HandlerMapping W), reordered.Perm mappings →
        r.replies (reordered.map (·.toCall place)) =
            reordered.map (fun mapping => (r.run (mapping.toCall place)).value.1) ∧
          r.runAll (reordered.map (·.toCall place)) = r.runAll (mappings.map (·.toCall place)) := by
  have sound := reachable.sound
  constructor
  · intro placements known places targets
    have listed : ∀ p ∈ placements, ∃ card, r.listing p.place.host = some (.real card) := by
      intro p mem
      obtain ⟨owner, there⟩ := known p mem
      exact ⟨_, listing_eq_real_iff.2 ⟨owner, there, rfl⟩⟩
    refine ⟨sound.version?_runAll_deploy listed, fun reordered perm => ?_⟩
    have all := (interchangeable_deploy listed places targets).perm (perm.symm.map _)
    refine ⟨?_, all.runAll_eq (perm.map _) ⟨sound, rfl⟩⟩
    rw [all.replies_eq ⟨sound, rfl⟩, List.map_map]
    rfl
  · intro place version deployed mappings readable patterns
    refine ⟨sound.exists_runAll_addHandler deployed readable, fun reordered perm => ?_⟩
    have all := (interchangeable_addHandler (H := H) (A := A) readable patterns place).perm
      (perm.symm.map _)
    refine ⟨?_, all.runAll_eq (perm.map _) ⟨sound, version, deployed⟩⟩
    rw [all.replies_eq ⟨sound, version, deployed⟩, List.map_map]
    rfl

/-- A host with an alias and a version that is mounted low. -/
def oneMount : Router Nat Nat Nat :=
  runAll empty [.addHost "h" ["w"] 0, .deploy "h" 0 { path := "/a", target := 1 }]

/-- A second version of what is mounted, a deeper mount, a place that is taken and a
pattern that is none. -/
def newcomers : List (Placement Nat Nat Nat) :=
  [⟨"h", 0, { path := "/a", version := "2", target := 2, handlers := [⟨"/x/*", 7, {}⟩] }⟩,
    ⟨"h", 5, { path := "/a/b/c", target := 3 }⟩,
    ⟨"h", 0, { path := "/a", target := 4 }⟩,
    ⟨"h", 0, { path := "/b", target := 5, handlers := [⟨"x", 7, {}⟩] }⟩]

/-- Two wildcards, one deeper than the other, and the fallback. -/
def threeHandlers : List (HandlerMapping Nat) :=
  [⟨"/x/*", 7, {}⟩, ⟨"/x/y/*", 8, {}⟩, ⟨"/", 9, {}⟩]

/-- Backwards every newcomer is answered as it would be by itself, and the router is
the same in the end. So it is after the handlers. -/
theorem registrations_in_any_order_oneMount :
    oneMount.replies (newcomers.reverse.map (·.toCall)) =
        [.refused (.invalidPattern "x" .noLead), .registration .rejected,
          .registration .added, .registration .added] ∧
      oneMount.runAll (newcomers.reverse.map (·.toCall)) =
        oneMount.runAll (newcomers.map (·.toCall)) ∧
      oneMount.runAll (threeHandlers.reverse.map (·.toCall ⟨"h", "/a", ""⟩)) =
        oneMount.runAll (threeHandlers.map (·.toCall ⟨"h", "/a", ""⟩)) := by
  have reachable : oneMount.Reachable := ⟨_, rfl⟩
  obtain ⟨deployments, handlers⟩ := reachable.registrations_in_any_order
  have known : ∀ p ∈ newcomers, (oneMount.host? p.place.host).isSome := by decide +kernel
  have deployed : (oneMount.version? (stored ⟨"h", "/a", ""⟩)).isSome := by decide +kernel
  obtain ⟨version, there⟩ := Option.isSome_iff_exists.1 deployed
  have readable : Ledger.firstFault threeHandlers = none := by decide +kernel
  obtain ⟨_, reordered⟩ := deployments newcomers
    (fun p mem => Option.isSome_iff_exists.1 (known p mem)) (by decide +kernel) (by decide +kernel)
  obtain ⟨_, reordered'⟩ := handlers ⟨"h", "/a", ""⟩ version (find_eq_ok_iff.2 there) threeHandlers
    (Ledger.firstFault_eq_none_iff.1 readable) (by decide +kernel)
  obtain ⟨answers, last⟩ := reordered newcomers.reverse newcomers.reverse_perm
  obtain ⟨_, last'⟩ := reordered' threeHandlers.reverse threeHandlers.reverse_perm
  exact ⟨answers.trans (by decide +kernel), last, last'⟩

end Router

end VirtualHosting
