/-
# Proofs.HostPrecedence — the rules by which a host is selected

A request names its host, or nobody and so the default host. Three rules look for
an entry: by the whole name, by its part from the first dot on, under which a name
such as `*.example.com` is stored, and by the name of the default host. The first
that finds one decides (`Router.hostRules`). Each compares folded names for
equality and so finds one entry at most, and none of them looks at the letter
case of what was asked for.

* `servingEntry?_eq`: three exact searches, all for folded names;
* `decides_hostRules`: the searches in their order are the rules in theirs;
* `requestedEntry?_congr_fold`: letter case makes no difference;
* `Reachable.host_precedence`: the rules, and what a request comes to by them.
-/
import VirtualHosting.Proofs.Precedence
import VirtualHosting.Proofs.Request
import VirtualHosting.Text.CodeSet

namespace VirtualHosting

set_option autoImplicit false

/-! ## Folding a name and cutting it -/

namespace Text

theorem fold_eq_empty_iff (name : String) : fold name = "" ↔ name = "" := by
  rw [← String.toList_inj, ← String.toList_inj]
  simp [fold]

theorem lower_eq_dot_iff (c : Char) : lower c = '.' ↔ c = '.' := by
  by_cases ascii : c.toNat < 128
  · exact forall_ascii (P := fun c => lower c = '.' ↔ c = '.') (by decide) c ascii
  · rw [lower_of_beyond (by omega)]

theorem fromFirst?_dot_eq_some_iff {name tail : String} :
    fromFirst? '.' name = some tail ↔
      ∃ lead rest : String, name = lead ++ "." ++ rest ∧ '.' ∉ lead.toList ∧
        tail = "." ++ rest := by
  have dot : String.singleton '.' = "." := rfl
  rw [fromFirst?_eq_some_iff, dot]

/-- No letter folds to a dot, so a name may be cut before it is folded or after. -/
theorem fromFirst?_fold (name : String) :
    fromFirst? '.' (fold name) = (fromFirst? '.' name).map fold := by
  have stops : ((· != '.') ∘ lower) = (· != '.') := by
    funext c
    rw [Bool.eq_iff_iff]
    simp [lower_eq_dot_iff]
  have cut : (fold name).toList.dropWhile (· != '.') =
      (name.toList.dropWhile (· != '.')).map lower := by
    rw [fold, String.toList_map, List.dropWhile_map, stops]
  unfold fromFirst?
  rw [cut]
  cases name.toList.dropWhile (· != '.') with
  | nil => rfl
  | cons c rest =>
    apply congrArg some
    apply String.toList_inj.1
    simp [fold]

end Text

namespace Router

variable {H A W : Type} {r : Router H A W} {name host : String}

/-! ## The rules -/

/-- **The rules of host selection**, for a name. -/
def hostRules (r : Router H A W) (name : String) : List (String × HostEntry H A W → Prop) :=
  [fun e => e ∈ r.entries.toList ∧ e.1 = Text.fold name,
    fun e => e ∈ r.entries.toList ∧ ∃ lead rest : String,
      name = lead ++ "." ++ rest ∧ '.' ∉ lead.toList ∧ e.1 = Text.fold ("." ++ rest),
    fun e => e ∈ r.entries.toList ∧ r.defaultHost = some e.1]

/-- The name that a request goes by: its own, or that of the default host. -/
def askedName? (r : Router H A W) (host : String) : Option String :=
  if host = "" then r.defaultHost else some host

/-- Every search for a host is an exact search for a folded name. -/
theorem servingEntry?_eq (ordered : r.WellFormed) (name : String) :
    r.servingEntry? name =
      (r.entries.entry? (Text.fold name)).or
        (((Text.fromFirst? '.' (Text.fold name)).bind r.entries.entry?).or
          (r.defaultHost.bind r.entries.entry?)) := by
  have exactly (key : String) : r.entries.entryFolded? key = r.entries.entry? (Text.fold key) :=
    Table.entryFolded?_eq_entry? ordered.folded key
  simp only [entryFor?, servingEntry?, Option.orElse_eq_orElse, Option.orElse_eq_or,
    Option.or_assoc, exactly, Text.fromFirst?_fold]
  cases Text.fromFirst? '.' name with
  | none => rfl
  | some tail => simp only [Option.bind_some, Option.map_some]

/-- **The searches in their order are the rules in theirs.** -/
theorem decides_hostRules (ordered : r.WellFormed) (name : String) :
    Decides (FirstOf (r.hostRules name)) (r.servingEntry? name) := by
  have finds {key : String} {e : String × HostEntry H A W} :
      r.entries.entry? key = some e ↔ e ∈ r.entries.toList ∧ e.1 = key :=
    ordered.ordered.entry?_eq_some_iff
  have whole : Decides (fun e => e ∈ r.entries.toList ∧ e.1 = Text.fold name)
      (r.entries.entry? (Text.fold name)) := by
    intro e
    exact finds.symm
  have suffix : Decides (fun e => e ∈ r.entries.toList ∧ ∃ lead rest : String,
      name = lead ++ "." ++ rest ∧ '.' ∉ lead.toList ∧ e.1 = Text.fold ("." ++ rest))
      ((Text.fromFirst? '.' (Text.fold name)).bind r.entries.entry?) := by
    intro e
    simp only [Text.fromFirst?_fold, Option.bind_eq_some_iff, Option.map_eq_some_iff,
      Text.fromFirst?_dot_eq_some_iff, finds]
    constructor
    · rintro ⟨mem, lead, rest, split, plain, same⟩
      exact ⟨e.1, ⟨"." ++ rest, ⟨lead, rest, split, plain, rfl⟩, same.symm⟩, mem, rfl⟩
    · rintro ⟨key, ⟨tail, ⟨lead, rest, split, plain, whole⟩, folded⟩, mem, same⟩
      exact ⟨mem, lead, rest, split, plain, by rw [same, ← folded, whole]⟩
  have standIn : Decides (fun e => e ∈ r.entries.toList ∧ r.defaultHost = some e.1)
      (r.defaultHost.bind r.entries.entry?) := by
    intro e
    simp only [Option.bind_eq_some_iff, finds]
    constructor
    · rintro ⟨mem, default⟩
      exact ⟨e.1, default, mem, rfl⟩
    · rintro ⟨_, default, mem, rfl⟩
      exact ⟨mem, default⟩
  have inOrder := whole.firstOf_cons (suffix.firstOf_cons (standIn.firstOf_cons .firstOf_nil))
  rw [Option.or_none] at inOrder
  exact inOrder.of_eq (servingEntry?_eq ordered name)

/-- No rule finds two entries. -/
theorem unique_of_hostRules (ordered : r.WellFormed) {rule : String × HostEntry H A W → Prop}
    (listed : rule ∈ r.hostRules name) {e e' : String × HostEntry H A W} (gives : rule e)
    (gives' : rule e') : e = e' := by
  simp only [hostRules, List.mem_cons, List.not_mem_nil, or_false] at listed
  rcases listed with rfl | rfl | rfl
  · obtain ⟨mem, same⟩ := gives
    obtain ⟨mem', same'⟩ := gives'
    exact ordered.ordered.eq_of_mem mem mem' (same.trans same'.symm)
  · obtain ⟨mem, lead, rest, split, plain, same⟩ := gives
    obtain ⟨mem', lead', rest', split', plain', same'⟩ := gives'
    -- A name has one first dot, so both entries are stored under the same suffix.
    have cut := Text.fromFirst?_dot_eq_some_iff.2 ⟨lead, rest, split, plain, rfl⟩
    have cut' := Text.fromFirst?_dot_eq_some_iff.2 ⟨lead', rest', split', plain', rfl⟩
    have suffix : "." ++ rest = "." ++ rest' := Option.some.inj (cut.symm.trans cut')
    apply ordered.ordered.eq_of_mem mem mem'
    rw [same, same', suffix]
  · obtain ⟨mem, default⟩ := gives
    obtain ⟨mem', default'⟩ := gives'
    exact ordered.ordered.eq_of_mem mem mem' (Option.some.inj (default.symm.trans default'))

/-- Host strings that differ in letter case only select the same entry. -/
theorem requestedEntry?_congr_fold (ordered : r.WellFormed) {other : String}
    (same : Text.fold other = Text.fold host) :
    r.requestedEntry? other = r.requestedEntry? host := by
  unfold requestedEntry?
  by_cases unnamed : host = ""
  · have unnamed' : other = "" := by
      rw [← Text.fold_eq_empty_iff, same, Text.fold_eq_empty_iff]
      exact unnamed
    rw [unnamed, unnamed']
  · have named : other ≠ "" := by
      rw [Ne, ← Text.fold_eq_empty_iff, same, Text.fold_eq_empty_iff]
      exact unnamed
    rw [if_neg unnamed, if_neg named, Option.bind_some, Option.bind_some,
      servingEntry?_eq ordered, servingEntry?_eq ordered, same]

/-! ## What a request comes to -/

/-- A host string selects an entry by the rules, and its requests get what the host
behind that entry gives. -/
structure SelectsHost (r : Router H A W) (host : String) : Prop where
  /-- No rule applies to two entries. -/
  unique : ∀ name ∈ r.askedName? host, ∀ rule ∈ r.hostRules name, ∀ e e',
    rule e → rule e' → e = e'
  /-- Where a rule applies, the first that does names the entry. -/
  served : ∀ name ∈ r.askedName? host, ∀ e, FirstOf (r.hostRules name) e →
    r.requestedEntry? host = some e ∧ ∃ serving, r.hostBehind? e.2 = some serving ∧
      ∀ uri requested, (r.resolve host uri requested).value =
        (resolveOn serving.mounts serving.target host uri requested).value
  /-- Where none applies, or there is no name to go by, nothing is resolved. -/
  unserved : (∀ name ∈ r.askedName? host, ∀ e, ¬ FirstOf (r.hostRules name) e) →
    r.requestedEntry? host = none ∧
      ∀ uri requested, (r.resolve host uri requested).value = .unresolved
  /-- Letter case makes no difference. -/
  folded : ∀ other, Text.fold other = Text.fold host → ∀ uri requested,
    (r.resolve other uri requested).value = (r.resolve host uri requested).value

theorem requestedEntry?_eq_some_iff_firstOf (ordered : r.WellFormed)
    {e : String × HostEntry H A W} :
    r.requestedEntry? host = some e ↔
      ∃ name ∈ r.askedName? host, FirstOf (r.hostRules name) e := by
  unfold requestedEntry?
  rw [Option.bind_eq_some_iff]
  refine exists_congr fun name => and_congr Iff.rfl ?_
  exact (decides_hostRules ordered name e).symm

variable [DecidableEq H] [DecidableEq A] [DecidableEq W]

/-- **Hosts are selected by the rules**, whatever names were registered in whatever
letter case. -/
theorem Reachable.host_precedence (reachable : r.Reachable) (host : String) :
    r.SelectsHost host := by
  have sound := reachable.sound
  have selects (e : String × HostEntry H A W) :
      r.requestedEntry? host = some e ↔
        ∃ name ∈ r.askedName? host, FirstOf (r.hostRules name) e :=
    requestedEntry?_eq_some_iff_firstOf sound.wellFormed
  constructor
  case unique =>
    intro name _ rule listed e e' gives gives'
    exact unique_of_hostRules sound.wellFormed listed gives gives'
  case served =>
    intro name asked e first
    have selected := (selects e).2 ⟨name, asked, first⟩
    obtain ⟨serving, behind, _⟩ := sound.exists_hostBehind (mem_of_requested selected)
    refine ⟨selected, serving, behind, ?_⟩
    intro uri requested
    rw [value_resolve, servingHost?_of_requestedEntry? selected behind]
  case unserved =>
    intro silent
    have missing : r.requestedEntry? host = none := by
      rw [Option.eq_none_iff_forall_ne_some]
      intro e selected
      obtain ⟨name, asked, first⟩ := (selects e).1 selected
      exact silent name asked e first
    refine ⟨missing, ?_⟩
    intro uri requested
    rw [value_resolve, servingHost?, missing]
    rfl
  case folded =>
    intro other same uri requested
    have alike : r.servingHost? other = r.servingHost? host := by
      rw [servingHost?, servingHost?, requestedEntry?_congr_fold sound.wellFormed same]
    rw [value_resolve, value_resolve, alike]
    cases r.servingHost? host with
    | none => rfl
    | some serving => simp only [value_resolveOn]

/-- A host, every name below another and a name beyond ASCII, in mixed letter case. -/
def mixedNames : Router Nat Nat Nat :=
  runAll empty [.addHost "A.b" [] 1, .addHost "*.B" [] 2, .addHost "Éa" [] 3]

/-- A name below `b` goes to the wildcard in either letter case. `É` folds to itself,
so a name with `é` is another. -/
theorem host_precedence_mixedNames :
    (mixedNames.resolve "x.B" "/" none).value = (mixedNames.resolve "X.b" "/" none).value ∧
      (mixedNames.resolve "X.b" "/" none).value.host = some 2 ∧
      (mixedNames.resolve "Éa" "/" none).value.host = some 3 ∧
      (mixedNames.resolve "éa" "/" none).value = .unresolved := by
  have reachable : mixedNames.Reachable := ⟨_, rfl⟩
  have folded : Text.fold "x.B" = Text.fold "X.b" := by
    apply String.toList_inj.1
    simp only [Text.fold, String.toList_map]
    decide
  have alike := (reachable.host_precedence "X.b").folded "x.B" folded "/" none
  exact ⟨alike, by decide +kernel, by decide +kernel, by decide +kernel⟩

end Router

end VirtualHosting
