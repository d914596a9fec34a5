/-
# Proofs.Batches — a deployment with its handlers, or one handler at a time

A deployment brings its handlers along. They are gathered into a set before anything is
published. A version may as well be deployed bare, and be given the same handlers by one
call each, while it is there for everybody to see. Both fill a slot that is free and
leave one that is taken, so both lead to one router, however long the list is and
whatever is listed twice.

* `Sound.exists_host`: a host that is new might as well have been there;
* `Sound.places_runAll_addHandler`: the calls make of a version what gathering does;
* `Reachable.batch_is_incremental`: the two ways to deploy a version.
-/
import VirtualHosting.Proofs.Gathering
import VirtualHosting.Proofs.Provenance
import VirtualHosting.Proofs.Refinement

namespace VirtualHosting

set_option autoImplicit false

variable {H A W : Type}

namespace Placement

/-- The same placement without its handlers. -/
def bare (p : Placement H A W) : Placement H A W :=
  { p with deployment := { p.deployment with handlers := [] } }

/-- The place as it is named in calls about the version. -/
def spot (p : Placement H A W) : Coordinates :=
  ⟨p.host, p.deployment.path, p.deployment.version⟩

/-- The calls that add the handlers one by one. -/
def handlerCalls (p : Placement H A W) : List (Call H A W) :=
  p.deployment.handlers.map (·.toCall p.spot)

theorem answer_of_gathered [DecidableEq A] [DecidableEq W] {p : Placement H A W}
    {handlers : HandlerSet W} (gathered : p.handlers = .ok handlers)
    (existing : Option (Version A W)) :
    p.answer existing =
      .registration (.over (existing.map (·.target)) p.deployment.target) := by
  rw [answer, gathered]

/-- Patterns that can all be read make a set. -/
theorem exists_handlers [DecidableEq W] {p : Placement H A W}
    (readable : ∀ mapping ∈ p.deployment.handlers, ∃ q, Pattern.parse mapping.pattern = .ok q) :
    ∃ handlers, p.handlers = .ok handlers := by
  have gathered := Router.value_gather_eq p.deployment.path p.deployment.handlers .empty
  rw [Ledger.firstFault_eq_none_iff.2 readable] at gathered
  exact gathered

end Placement

/-- Something is added where nothing was. -/
theorem Registration.over_eq_added_iff {α : Type} [DecidableEq α] {existing : Option α}
    {target : α} : Registration.over existing target = .added ↔ existing = none := by
  cases existing with
  | none => simp [Registration.over]
  | some known => by_cases same : known = target <;> simp [Registration.over, same]

namespace Router

variable {r : Router H A W} {p : Placement H A W} {application : String}

/-! ## One version -/

variable [DecidableEq A]

/-- There is one way to fill a place. -/
theorem Fills.unique {next next' : Router H A W} {place : Coordinates}
    {offered : Option (Version A W)} (one : r.Fills next place offered)
    (other : r.Fills next' place offered) : next = next' := by
  apply other.sound.wellFormed.ext one.sound.wellFormed
  · rw [one.listing, other.listing]
  · intro here
    rw [one.version?, other.version?]
  · rw [one.defaultHost, other.defaultHost]
  · refine congrArg TargetIndex.mk (funext fun target => ?_)
    rw [one.place?, other.place?]

/-- A place is filled with what is made of its version afterwards. -/
theorem Fills.revise {middle next : Router H A W} {place : Coordinates} {v v' : Version A W}
    (filled : r.Fills middle place (some v)) (free : r.version? place = none)
    (placed : middle.Places next place v') (target : v'.target = v.target)
    (index : next.index = middle.index) : r.Fills next place (some v') where
  sound := placed.sound
  listing := placed.listing.trans filled.listing
  defaultHost := placed.defaultHost.trans filled.defaultHost
  version? other := by
    rw [placed.version?, filled.version?, free]
    by_cases here : other = place
    · rw [if_pos here, if_pos here, Option.none_or]
    · rw [if_neg here, if_neg here, if_neg here]
  place? other := by
    rw [index, filled.place?, Option.map_some, Option.map_some, target]

/-! ## Deployments -/

variable [DecidableEq W] [DecidableEq H]

/-- A malformed pattern keeps everything from being published. -/
theorem deploy_malformed (r : Router H A W) {refusal : Refusal}
    (faulty : Ledger.firstFault p.deployment.handlers = some refusal) :
    (r.run p.toCall).value = (.refused refusal, r) := by
  have gathered := value_gather_eq p.deployment.path p.deployment.handlers .empty
  rw [faulty] at gathered
  rw [value_run_placement, value_deploy, gathered]
  rfl

/-- Nothing is deployed on an alias. -/
theorem deploy_aliased {owner : String}
    (there : r.entries.find? p.place.host = some (.aliasOf owner)) {handlers : HandlerSet W}
    (gathered : p.handlers = .ok handlers) :
    (r.run p.toCall).value = (.refused (.hostIsAlias p.place.host), r) := by
  have there : r.entries.find? (normalizeHostName p.host) = some (.aliasOf owner) := there
  have gathered : (gather p.deployment.path .empty p.deployment.handlers).value = .ok handlers :=
    gathered
  rw [value_run_placement, value_deploy, gathered, there]
  rfl

/-- A deployment that is not sent to an alias comes to the same on a router that has its
host. -/
theorem Sound.exists_host (sound : r.Sound)
    (unaliased : ∀ owner, r.entries.find? p.place.host ≠ some (.aliasOf owner)) :
    ∃ grown : Router H A W, grown.Sound ∧ (∃ card, grown.listing p.place.host = some (.real card)) ∧
      ∀ q : Placement H A W, q.host = p.host → q.hostTarget = p.hostTarget →
        (∃ handlers, q.handlers = .ok handlers) →
        (r.run q.toCall).value = (grown.run q.toCall).value := by
  have ordered := sound.wellFormed.ordered
  cases there : r.entries.find? p.place.host with
  | some entry =>
    cases entry with
    | aliasOf owner => exact absurd there (unaliased owner)
    | real owner =>
      have known := host?_eq_some_iff.2 there
      exact ⟨r, sound, ⟨_, listing_eq_real_iff.2 ⟨owner, known, rfl⟩⟩, fun _ _ _ _ => rfl⟩
  | none =>
    -- the host is entered first, without aliases
    obtain ⟨entries, inserted, answer⟩ := addHost_stored ordered there p.hostTarget
    have entered : Edit r { r with entries } := .enterHost inserted
    have known : ({ r with entries } : Router H A W).host? p.place.host =
        some { target := p.hostTarget } := host?_of_insert? ordered inserted
    refine ⟨{ r with entries }, entered.sound sound,
      ⟨_, listing_eq_real_iff.2 ⟨_, known, rfl⟩⟩, ?_⟩
    rintro ⟨host, hostTarget, deployment⟩ rfl rfl ⟨handlers, gathered⟩
    have gathered : (gather deployment.path .empty deployment.handlers).value = .ok handlers :=
      gathered
    have there : r.entries.find? (normalizeHostName p.host) = none := there
    have known := host?_eq_some_iff.1 known
    rw [value_run_placement, value_run_placement, value_deploy, value_deploy, gathered]
    dsimp only [Placement.place] at known answer ⊢
    rw [there, known, answer]
    rfl

/-- **Handlers added by calls are those that would have been gathered.** -/
theorem Sound.places_runAll_addHandler (sound : r.Sound) {place : Coordinates}
    {version : Version A W} (deployed : r.find place = .ok version)
    {mappings : List (HandlerMapping W)} {handlers : HandlerSet W}
    (gathered : (gather application version.handlers mappings).value = .ok handlers) :
    r.Places (r.runAll (mappings.map (·.toCall place))) (stored place)
        (version.withHandlers handlers) ∧
      (r.runAll (mappings.map (·.toCall place))).index = r.index := by
  induction mappings generalizing r version with
  | nil =>
    obtain rfl := Except.ok.inj gathered
    exact ⟨.refl sound (find_eq_ok_iff.1 deployed), rfl⟩
  | cons mapping rest placed =>
    cases read : Pattern.parse mapping.pattern with
    | error fault =>
      rw [value_gather_cons, read] at gathered
      cases gathered
    | ok p =>
      rw [value_gather_put read] at gathered
      obtain ⟨_, one, index⟩ := sound.places_addHandler deployed read
      have changed := find_eq_ok_iff.2 ((one.version? _).trans (if_pos rfl))
      obtain ⟨others, index'⟩ := placed one.sound changed gathered
      exact ⟨one.trans others, index'.trans index⟩

/-- Handlers make no difference to whether a version is added. -/
theorem Sound.reply_bare (sound : r.Sound) {handlers : HandlerSet W}
    (gathered : p.handlers = .ok handlers) :
    (r.run p.toCall).value.1 = (r.run p.bare.toCall).value.1 := by
  have bare : p.bare.handlers = .ok .empty := rfl
  by_cases aliased : ∃ owner, r.entries.find? p.place.host = some (.aliasOf owner)
  · obtain ⟨owner, there⟩ := aliased
    have there' : r.entries.find? p.bare.place.host = some (.aliasOf owner) := there
    rw [deploy_aliased there gathered, deploy_aliased there' bare]
    rfl
  · obtain ⟨grown, grownSound, ⟨card, known⟩, alike⟩ := sound.exists_host (not_exists.1 aliased)
    obtain ⟨answer, _⟩ := grownSound.fills_deploy p known
    obtain ⟨answer', _⟩ := grownSound.fills_deploy p.bare known
    rw [alike p rfl rfl ⟨handlers, gathered⟩, alike p.bare rfl rfl ⟨.empty, bare⟩, answer,
      answer', Placement.answer_of_gathered gathered, Placement.answer_of_gathered bare]
    rfl

/-- What is added fills a place that was free, with its handlers or without. -/
theorem Sound.fills_of_added (sound : r.Sound) {handlers : HandlerSet W}
    (gathered : p.handlers = .ok handlers)
    (added : (r.run p.toCall).value.1 = .registration .added) :
    ∃ grown : Router H A W, grown.version? p.place = none ∧
      grown.Fills (r.after p.toCall) p.place (some (p.deployment.publication handlers)) ∧
      grown.Fills (r.after p.bare.toCall) p.place (some (p.deployment.publication .empty)) := by
  have unaliased : ∀ owner, r.entries.find? p.place.host ≠ some (.aliasOf owner) := by
    intro owner there
    rw [deploy_aliased there gathered] at added
    cases added
  obtain ⟨grown, grownSound, ⟨card, known⟩, alike⟩ := sound.exists_host unaliased
  have full := alike p rfl rfl ⟨handlers, gathered⟩
  have empty := alike p.bare rfl rfl ⟨.empty, rfl⟩
  obtain ⟨answer, filled⟩ := grownSound.fills_deploy p known
  obtain ⟨_, filled'⟩ := grownSound.fills_deploy p.bare known
  have free : grown.version? p.place = none := by
    rw [full, answer, Placement.answer_of_gathered gathered] at added
    have nothing := Registration.over_eq_added_iff.1 (Reply.registration.inj added)
    exact Option.map_eq_none_iff.1 nothing
  refine ⟨grown, free, ?_, ?_⟩
  · rw [after, full, ← Placement.offered_eq_some_iff.2 ⟨handlers, gathered, rfl⟩]
    exact filled
  · rw [after, empty]
    exact filled'

/-- **A batch is what its calls make of it one by one.** If a pattern of a deployment is
malformed, the first such is refused and nothing is published. Otherwise the deployment
is answered as it would be without its handlers; and where it is added, the router is
the one that the bare deployment and the calls for its handlers lead to, in the order in
which they are listed. For every pattern the version has the first handler listed for
it. -/
theorem Reachable.batch_is_incremental (reachable : r.Reachable) (p : Placement H A W) :
    ((∃ mapping ∈ p.deployment.handlers, ∀ q, Pattern.parse mapping.pattern ≠ .ok q) →
      ∃ refusal, Ledger.firstFault p.deployment.handlers = some refusal ∧
        (r.run p.toCall).value = (.refused refusal, r)) ∧
    ((∀ mapping ∈ p.deployment.handlers, ∃ q, Pattern.parse mapping.pattern = .ok q) →
      (r.run p.toCall).value.1 = (r.run p.bare.toCall).value.1 ∧
      ((r.run p.toCall).value.1 = .registration .added →
        r.after p.toCall = (r.after p.bare.toCall).runAll p.handlerCalls ∧
        ∃ version, (r.after p.toCall).version? p.place = some version ∧
          ∀ written q, Pattern.parse written = .ok q →
            version.handlers.find? q =
              (p.deployment.handlers.find? (·.pattern == written)).map fun first =>
                ⟨first.target, first.flags⟩)) := by
  have sound := reachable.sound
  constructor
  · rintro ⟨mapping, listed, malformed⟩
    have faulty : Ledger.firstFault p.deployment.handlers ≠ none := by
      intro readable
      obtain ⟨q, read⟩ := Ledger.firstFault_eq_none_iff.1 readable mapping listed
      exact malformed q read
    obtain ⟨refusal, first⟩ := Option.ne_none_iff_exists'.1 faulty
    exact ⟨refusal, first, deploy_malformed r first⟩
  · intro readable
    obtain ⟨handlers, gathered⟩ := Placement.exists_handlers readable
    refine ⟨sound.reply_bare gathered, fun added => ?_⟩
    obtain ⟨grown, free, full, empty⟩ := sound.fills_of_added gathered added
    have deployed :
        (r.after p.bare.toCall).find p.spot = .ok (p.deployment.publication .empty) := by
      rw [find_eq_ok_iff]
      refine (empty.version? _).trans ?_
      rw [free, Option.none_or]
      exact if_pos rfl
    obtain ⟨grew, index⟩ := empty.sound.places_runAll_addHandler deployed gathered
    have incremental : grown.Fills ((r.after p.bare.toCall).runAll p.handlerCalls) p.place
        (some (p.deployment.publication handlers)) := empty.revise free grew rfl index
    refine ⟨full.unique incremental, p.deployment.publication handlers, ?_, ?_⟩
    · rw [full.version?, if_pos rfl, free, Option.none_or]
    · intro written q read
      exact find?_gather_empty gathered read

/-- A version on a new host. Its list has a pattern for two targets, another one twice
for the same target with other flags, and a wildcard inside another. -/
def disputedBatch : Placement Nat Nat Nat :=
  ⟨"New", 3, { path := "/b", target := 2, handlers :=
    [⟨"/x/*", 7, {}⟩, ⟨"/", 8, {}⟩, ⟨"/x/*", 9, {}⟩, ⟨"/", 8, { template := true }⟩,
      ⟨"/x/y/*", 9, {}⟩] }⟩

/-- The same list with a pattern at its end that is none. -/
def malformedBatch : Placement Nat Nat Nat :=
  { disputedBatch with deployment := { disputedBatch.deployment with handlers :=
    disputedBatch.deployment.handlers ++ [⟨"*./x", 9, {}⟩] } }

theorem batch_is_incremental_disputedBatch :
    (oneMount.after disputedBatch.toCall =
        (oneMount.after disputedBatch.bare.toCall).runAll disputedBatch.handlerCalls ∧
      ∃ version, (oneMount.after disputedBatch.toCall).version? ⟨"new", "/b", ""⟩ = some version ∧
        version.handlers.find? (.wildcard "/x") = some ⟨7, {}⟩ ∧
        version.handlers.find? .fallback = some ⟨8, {}⟩) ∧
      (oneMount.run malformedBatch.toCall).value.2 = oneMount := by
  have reachable : oneMount.Reachable := ⟨_, rfl⟩
  have readable : Ledger.firstFault disputedBatch.deployment.handlers = none := by decide +kernel
  have place : disputedBatch.place = ⟨"new", "/b", ""⟩ := by decide +kernel
  have malformed : Pattern.parse "*./x" = .error .slashInExtension := by decide +kernel
  obtain ⟨_, incremental⟩ := reachable.batch_is_incremental disputedBatch
  obtain ⟨_, added⟩ := incremental (Ledger.firstFault_eq_none_iff.1 readable)
  obtain ⟨same, version, there, first⟩ := added (by decide +kernel)
  rw [place] at there
  obtain ⟨refused, _⟩ := reachable.batch_is_incremental malformedBatch
  obtain ⟨_, _, nothing⟩ := refused ⟨⟨"*./x", 9, {}⟩, by simp [malformedBatch], by simp [malformed]⟩
  exact ⟨⟨same, version, there, first "/x/*" _ (by decide +kernel),
    first "/" _ (by decide +kernel)⟩, by rw [nothing]⟩

end Router

end VirtualHosting
