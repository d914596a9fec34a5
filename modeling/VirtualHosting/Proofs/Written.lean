/-
# Proofs.Written — what a handler set holds was written by somebody

A handler set has a slot for every value of `Pattern`, but only texts that were read
come into one. So the names under which handlers are stored have the shapes of written
patterns: an exact path starts with a slash, and so does the lead of a wildcard, unless
it is the wildcard for everything; an extension has no slash.

* `Pattern.parse_cases`: the three ways a pattern is written;
* `HandlerSet.Written.put`, `HandlerSet.Written.remove?`: a handler more or less;
* `Router.Reachable.written`: so every version that is deployed holds written patterns;
* `HandlerSet.Written.slash_of_exact`, `slash_of_wildcard`, `plain_of_extension`: the
  shapes of the names.
-/
import VirtualHosting.Proofs.Gathering
import VirtualHosting.Proofs.Provenance
import VirtualHosting.Proofs.Slice

namespace VirtualHosting

set_option autoImplicit false

variable {H A W : Type}

/-! ## Written patterns -/

namespace Pattern

variable {written : String} {p : Pattern}

/-- A pattern is empty, or an extension without a slash, or starts with a slash. -/
theorem parse_cases (read : parse written = .ok p) :
    p = .root ∨ (∃ suffix, p = .extension suffix ∧ '/' ∉ suffix.toList) ∨
      ∃ rest, p.text = "/" ++ rest := by
  have same := text_of_parse read
  unfold parse at read
  split at read
  · cases read
  · split at read
    · cases read
      exact .inl rfl
    · split at read
      · split at read
        · cases read
        · rename_i plain
          split at read
          · cases read
          · cases read
            exact .inr (.inl ⟨_, rfl, plain⟩)
      · split at read
        · rename_i led
          rw [same]
          exact .inr (.inr (Text.startsWith_eq_true_iff.1 led))
        · cases read

theorem slash_of_exact {path : String} (read : parse written = .ok (.exact path)) :
    ∃ rest, path = "/" ++ rest := by
  rcases parse_cases read with root | ⟨_, extension, _⟩ | led
  · cases root
  · cases extension
  · exact led

theorem slash_of_wildcard {lead : String} (read : parse written = .ok (.wildcard lead)) :
    lead = "" ∨ ∃ rest, lead = "/" ++ rest := by
  rcases parse_cases read with root | ⟨_, extension, _⟩ | ⟨rest, led⟩
  · cases root
  · cases extension
  · have letters : lead.toList ++ "/*".toList = "/".toList ++ rest.toList := by
      simpa [text] using congrArg String.toList led
    cases front : lead.toList with
    | nil => exact .inl (String.toList_eq_nil_iff.1 front)
    | cons c cs =>
      rw [front] at letters
      have letters : c :: (cs ++ "/*".toList) = '/' :: rest.toList := letters
      obtain ⟨rfl, _⟩ := List.cons.inj letters
      refine .inr ⟨String.ofList cs, ?_⟩
      apply String.toList_inj.1
      simp [front]

theorem plain_of_extension {suffix : String} (read : parse written = .ok (.extension suffix)) :
    '/' ∉ suffix.toList := by
  rcases parse_cases read with root | ⟨_, extension, plain⟩ | ⟨rest, led⟩
  · cases root
  · cases extension
    exact plain
  · have letters := congrArg String.toList led
    simp [text] at letters

end Pattern

/-! ## Handler sets -/

namespace HandlerSet

variable {set next : HandlerSet W} {p : Pattern}

/-- Whatever slot is taken, some pattern that can be written takes it. -/
def Written (set : HandlerSet W) : Prop :=
  ∀ p, set.find? p ≠ none → ∃ written q, Pattern.parse written = .ok q ∧ q.slot = p.slot

theorem written_empty : (empty : HandlerSet W).Written :=
  fun p held => absurd (find?_empty p) held

namespace Written

theorem put (known : set.Written) (ordered : set.WellFormed) {written : String}
    (read : Pattern.parse written = .ok p) (handler : Handler W) : (set.put p handler).Written := by
  intro q held
  rw [ordered.find?_put] at held
  split at held
  · rename_i here
    exact ⟨written, p, read, here.symm⟩
  · exact known q held

theorem remove? (known : set.Written) (ordered : set.WellFormed)
    (removed : set.remove? p = some next) : next.Written := by
  intro q held
  rw [ordered.find?_remove? removed] at held
  split at held
  · exact absurd rfl held
  · exact known q held

variable (known : set.Written) (ordered : set.WellFormed)
include known ordered

theorem slash_of_exact {path : String} {h : Handler W} (stored : (path, h) ∈ set.exact.toList) :
    ∃ rest, path = "/" ++ rest := by
  have held : set.find? (.exact path) = some h := ordered.exact_ordered.find?_eq_some_iff.2 stored
  obtain ⟨written, q, read, same⟩ := known (.exact path) (held ▸ Option.some_ne_none h)
  cases q with
  | root =>
    obtain rfl := Pattern.exact.inj same
    exact ⟨"", rfl⟩
  | exact path' =>
    obtain rfl := Pattern.exact.inj same
    exact Pattern.slash_of_exact read
  | fallback | wildcard | extension => cases same

theorem slash_of_wildcard {lead : String} (named : lead ∈ set.wildcard.names) :
    lead = "" ∨ ∃ rest, lead = "/" ++ rest := by
  obtain ⟨h, stored⟩ := Table.mem_names_iff.1 named
  have held : set.find? (.wildcard lead) = some h :=
    ordered.wildcard_ordered.find?_eq_some_iff.2 stored
  obtain ⟨written, q, read, same⟩ := known (.wildcard lead) (held ▸ Option.some_ne_none h)
  cases q with
  | wildcard lead' =>
    obtain rfl := Pattern.wildcard.inj same
    exact Pattern.slash_of_wildcard read
  | root | exact | fallback | extension => cases same

theorem plain_of_extension {suffix : String} (named : suffix ∈ set.extension.names) :
    '/' ∉ suffix.toList := by
  obtain ⟨h, stored⟩ := Table.mem_names_iff.1 named
  have held : set.find? (.extension suffix) = some h :=
    ordered.extension_ordered.find?_eq_some_iff.2 stored
  obtain ⟨written, q, read, same⟩ := known (.extension suffix) (held ▸ Option.some_ne_none h)
  cases q with
  | extension suffix' =>
    obtain rfl := Pattern.extension.inj same
    exact Pattern.plain_of_extension read
  | root | exact | fallback | wildcard => cases same

end Written

end HandlerSet

/-! ## Reachable routers -/

namespace Router

theorem written_of_gather [DecidableEq W] {application : String}
    {mappings : List (HandlerMapping W)} {set handlers : HandlerSet W}
    (ordered : set.WellFormed) (known : set.Written)
    (gathered : (gather application set mappings).value = .ok handlers) :
    handlers.WellFormed ∧ handlers.Written := by
  induction mappings generalizing set with
  | nil =>
    obtain rfl := Except.ok.inj gathered
    exact ⟨ordered, known⟩
  | cons mapping rest kept =>
    cases read : Pattern.parse mapping.pattern with
    | error fault =>
      rw [value_gather_cons, read] at gathered
      cases gathered
    | ok p =>
      rw [value_gather_put read] at gathered
      exact kept (ordered.put p _) (known.put ordered read _) gathered

/-- No call brings a pattern that nobody wrote. -/
theorem written_revised [DecidableEq A] {v : Version A W} (call : Call H A W)
    (known : v.handlers.WellFormed ∧ v.handlers.Written) :
    (v.revised call).handlers.WellFormed ∧ (v.revised call).handlers.Written := by
  cases call with
  | pause place target =>
    unfold Version.revised
    dsimp only
    split <;> exact known
  | addHandler place pattern target flags =>
    unfold Version.revised
    dsimp only
    cases read : Pattern.parse pattern with
    | error fault => exact known
    | ok p => exact ⟨known.1.put _ _, known.2.put known.1 read _⟩
  | removeHandler place pattern =>
    unfold Version.revised
    dsimp only
    cases Pattern.parse pattern with
    | error fault => exact known
    | ok p =>
      dsimp only
      cases removed : v.handlers.remove? p with
      | none => exact known
      | some next => exact ⟨known.1.remove? removed, known.2.remove? known.1 removed⟩
  | addWelcomeFile place name =>
    unfold Version.revised
    dsimp only
    split <;> exact known
  | removeWelcomeFile | clearWelcomeFiles | setDefaultHost | addHost | removeHost | addAlias
  | removeAlias | deploy | undeploy => exact known

/-- **Every version that is deployed holds patterns that were written.** -/
theorem Reachable.written [DecidableEq H] [DecidableEq A] [DecidableEq W] {r : Router H A W}
    {place : Coordinates} {version : Version A W} (reachable : r.Reachable)
    (there : r.version? place = some version) :
    version.handlers.WellFormed ∧ version.handlers.Written := by
  refine reachable.forall_version
    (I := fun v => v.handlers.WellFormed ∧ v.handlers.Written) ?_ ?_ there
  · intro p v offered
    obtain ⟨handlers, gathered, rfl⟩ := Placement.offered_eq_some_iff.1 offered
    exact written_of_gather HandlerSet.wellFormed_empty HandlerSet.written_empty gathered
  · intro v call known
    exact written_revised call known

end Router

end VirtualHosting
