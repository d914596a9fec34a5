/-
# Proofs.Redirects — a redirect is followed once

A request is redirected to its own path and a slash, for the bare path of a mount
or for a directory. The slash moves it to no other mount, since mounted paths do
not end in one (`Slash.reaches_append_slash`), and neither rule applies to what
ends in a slash below a mount (`Version.Precedence.redirects`). So whoever follows
a redirect gets the same version of the same application and no further redirect.

* `Version.Precedence.redirects`: which rules redirect, and what they leave unset;
* `Sound.precedence_resolve`: a result shows what the rules of its version give;
* `requestedVersion?_append_slash`: the slash changes no version;
* `redirect_progresses`: the request, its redirect and the request after it.
-/
import VirtualHosting.Proofs.HandlerSelection
import VirtualHosting.Proofs.Request

namespace VirtualHosting

set_option autoImplicit false

variable {H A W : Type}

/-! ## Paths and a slash -/

namespace Slash

variable {name path : String}

/-- Where a text ends in a slash, the end of it does, unless it is empty. -/
theorem exists_of_append_eq {rest front : String} (same : name ++ rest = front ++ "/") :
    rest = "" ∨ ∃ front', rest = front' ++ "/" := by
  by_cases bare : rest = ""
  · exact .inl bare
  · have some_left : rest.toList ≠ [] := by
      rw [Ne, String.toList_eq_nil_iff]
      exact bare
    obtain ⟨before, last, split⟩ := List.eq_nil_or_concat rest.toList |>.resolve_left some_left
    have letters := congrArg String.toList same
    simp only [String.toList_append, split, List.concat_eq_append, ← List.append_assoc] at letters
    have final : [last] = "/".toList := List.append_inj_right' letters rfl
    refine .inr ⟨String.ofList before, ?_⟩
    apply String.toList_inj.1
    simp [split, List.concat_eq_append, final]

/-- What ends in a slash ends in it behind any name it continues. -/
theorem exists_of_append_slash {rest : String} (same : path ++ "/" = name ++ "/" ++ rest) :
    path = name ∨ ∃ rest', path = name ++ "/" ++ rest' := by
  rcases exists_of_append_eq same.symm with rfl | ⟨rest', rfl⟩
  · rw [String.append_empty] at same
    exact .inl ((String.append_left_inj "/").1 same)
  · rw [← String.append_assoc] at same
    exact .inr ⟨rest', (String.append_left_inj "/").1 same⟩

/-- A name that does not end in a slash reaches no more by one at the end of a path. -/
theorem reaches_append_slash (plain : ¬ ∃ front, name = front ++ "/") :
    Reaches name (path ++ "/") ↔ Reaches name path := by
  constructor
  · rintro (none_left | same | ⟨rest, split⟩)
    · exact .inl none_left
    · exact absurd ⟨path, same.symm⟩ plain
    · exact .inr (exists_of_append_slash split)
  · rintro (none_left | rfl | ⟨rest, rfl⟩)
    · exact .inl none_left
    · exact .inr (.inr ⟨"", String.append_empty.symm⟩)
    · exact .inr (.inr ⟨rest ++ "/", String.append_assoc ..⟩)

end Slash

/-! ## The rules that redirect -/

theorem Outcome.Via.exists_chosen {kind : MatchKind} {found : Handler W → Prop} {o : Outcome W}
    (via : Via kind found o) : ∃ kind h, o = chosen kind h := by
  obtain ⟨h, _, given⟩ := via
  exact ⟨kind, h, given⟩

theorem Outcome.Via.redirect_eq_none {kind : MatchKind} {found : Handler W → Prop}
    {o : Outcome W} (via : Via kind found o) : o.redirect = none := by
  obtain ⟨h, _, rfl⟩ := via
  rfl

namespace Version

variable {v : Version A W} {rel : String} {o : Outcome W}

theorem WelcomePass.exists_chosen {file : String} (pass : v.WelcomePass file o) :
    ∃ kind h, o = .chosen kind h := by
  refine FirstOf.of_forall (P := fun o => ∃ kind h, o = .chosen kind h) ?_ pass
  intro rule listed o gives
  simp only [List.mem_cons, List.not_mem_nil, or_false] at listed
  rcases listed with rfl | rfl | rfl | rfl
  · exact gives.exists_chosen
  · exact gives.exists_chosen
  · exact gives.2.exists_chosen
  · exact gives.2.exists_chosen

/-- Welcome files lead to handlers only. -/
theorem Welcome.exists_chosen (welcome : v.Welcome rel o) : ∃ kind h, o = .chosen kind h := by
  refine FirstOf.of_forall (P := fun o => ∃ kind h, o = .chosen kind h) ?_ welcome
  intro passes listed o gives
  simp only [List.mem_cons, List.not_mem_nil, or_false] at listed
  rcases listed with rfl | rfl
  · refine FirstOf.of_forall_map (P := fun o => ∃ kind h, o = .chosen kind h) ?_ gives
    intro name o pass
    exact WelcomePass.exists_chosen pass
  · refine FirstOf.of_forall_map (P := fun o => ∃ kind h, o = .chosen kind h) ?_ gives
    intro name o pass
    exact Outcome.Via.exists_chosen pass

theorem Welcome.redirect_eq_none (welcome : v.Welcome rel o) : o.redirect = none := by
  obtain ⟨kind, h, rfl⟩ := welcome.exists_chosen
  rfl

/-- A redirect is for the bare mount path or for a path without a slash at its end,
and it is all that is set. -/
theorem Precedence.redirects (given : v.Precedence rel o) (redirected : o.redirect ≠ none) :
    o = .redirected (v.path ++ rel) ∧ (rel = "" ∨ ¬ v.AsksDirectory rel) := by
  refine FirstOf.of_forall (P := fun o => o.redirect ≠ none →
    o = .redirected (v.path ++ rel) ∧ (rel = "" ∨ ¬ v.AsksDirectory rel)) ?_ given redirected
  intro rule listed o gives redirected
  simp only [List.mem_cons, List.not_mem_nil, or_false] at listed
  rcases listed with rfl | rfl | rfl | rfl | rfl | rfl | rfl | rfl
  · exact absurd gives.redirect_eq_none redirected
  · exact absurd gives.redirect_eq_none redirected
  · exact ⟨gives.2, .inl gives.1.1⟩
  · exact absurd gives.2.redirect_eq_none redirected
  · exact absurd gives.2.redirect_eq_none redirected
  · exact ⟨gives.2, .inr gives.1.2.1⟩
  · exact absurd gives.2.redirect_eq_none redirected
  · rw [show o = .unmatched from gives] at redirected
    exact absurd rfl redirected

end Version

/-! ## Requests and their results -/

namespace Router

variable {r : Router H A W} {host uri : String} {requested : Option String}
  {place : Coordinates} {version : Version A W}

/-- What a running version sets of a result is what its rules give. -/
theorem Sound.precedence_resolve (sound : r.Sound)
    (found : r.requestedVersion? host uri requested = some (place, version))
    (running : version.paused = false) :
    ∃ rel, uri = place.path ++ rel ∧ version.path = place.path ∧
      version.Precedence rel (r.resolve host uri requested).value.outcome := by
  have ordered := sound.wellFormed.of_version? (sound.version?_of_requestedVersion? found)
  obtain ⟨e, serving, application, _, _, _, best, _⟩ :=
    (requestedVersion?_eq_some_iff sound).1 found
  obtain ⟨rel, split⟩ := best.reaches.isPrefix
  have whole : uri = place.path ++ String.ofList rel := by
    apply String.toList_inj.1
    simp [← split]
  refine ⟨String.ofList rel, whole, ordered.path_eq, ?_⟩
  obtain ⟨target, mounted, result⟩ := exists_resolve_eq found
  have fresh : (Resolution.upTo target place.path mounted version).outcome = .unmatched := rfl
  rw [Version.precedence_iff ordered.handlers, ordered.path_eq, ← whole, result, running]
  exact (Resolution.outcome_complete fresh uri _).symm

/-- No mounted path ends in a slash. -/
def PlainMounts (r : Router H A W) : Prop :=
  ∀ name host, (name, HostEntry.real host) ∈ r.entries.toList →
    ∀ path ∈ host.mounts.applications.names, path = "" ∨ ¬ ∃ front, path = front ++ "/"

theorem PlainMounts.of_mem (plain : r.PlainMounts) {name path : String} {host : Host H A W}
    (stored : (name, HostEntry.real host) ∈ r.entries.toList)
    (mounted : path ∈ host.mounts.applications.names) : ¬ ∃ front, path = front ++ "/" := by
  rcases plain name host stored path mounted with rfl | unslashed
  · rintro ⟨front, broken⟩
    have letters := congrArg String.toList broken
    simp at letters
  · exact unslashed

/-- A slash at the end of a request changes neither mount nor version. -/
theorem requestedVersion?_append_slash (sound : r.Sound) (plain : r.PlainMounts)
    (host uri : String) (requested : Option String) :
    r.requestedVersion? host (uri ++ "/") requested = r.requestedVersion? host uri requested := by
  apply Option.ext
  rintro ⟨place, version⟩
  rw [requestedVersion?_eq_some_iff sound, requestedVersion?_eq_some_iff sound]
  refine exists_congr fun e => exists_congr fun serving => exists_congr fun application => ?_
  refine and_congr_right fun selected => and_congr_right fun behind => ?_
  have known := (sound.host?_of_requestedEntry? selected).trans behind
  have stored := sound.wellFormed.ordered.find?_eq_some_iff.1 (host?_eq_some_iff.1 known)
  have alike : ∀ name ∈ serving.mounts.applications.names,
      (Slash.Reaches name (uri ++ "/") ↔ Slash.Reaches name uri) := by
    intro name mounted
    exact Slash.reaches_append_slash (plain.of_mem stored mounted)
  rw [Table.mostSpecific_congr alike]

/-- Where no mounted path ends in a slash, no request that does is redirected. -/
theorem Sound.redirected (sound : r.Sound) (plain : r.PlainMounts) {target : String}
    (redirected : (r.resolve host uri requested).value.redirectPath = some target) :
    (r.resolve host uri requested).value.outcome = .redirected uri ∧
      (¬ ∃ front, uri = front ++ "/") ∧
      ∃ place version, r.requestedVersion? host uri requested = some (place, version) := by
  cases found : r.requestedVersion? host uri requested with
  | none =>
    obtain ⟨serving, result⟩ := exists_resolve_eq_of_none sound found
    rw [result] at redirected
    cases redirected
  | some chosen =>
    obtain ⟨place, version⟩ := chosen
    obtain ⟨serving, application, result⟩ := exists_resolve_eq found
    cases running : version.paused with
    | true =>
      rw [result, running] at redirected
      cases redirected
    | false =>
      obtain ⟨rel, whole, mount, given⟩ := sound.precedence_resolve found running
      have some_target : (r.resolve host uri requested).value.outcome.redirect ≠ none := by
        intro missing
        cases missing.symm.trans redirected
      obtain ⟨outcome, bare⟩ := given.redirects some_target
      rw [mount, ← whole] at outcome
      refine ⟨outcome, ?_, place, version, rfl⟩
      rcases bare with rfl | unslashed
      · -- the bare path of a mount
        obtain ⟨host, application, known, mounted, _⟩ :=
          version?_eq_some_iff.1 (sound.version?_of_requestedVersion? found)
        have ordered := sound.wellFormed.of_host? known
        have stored := sound.wellFormed.ordered.find?_eq_some_iff.1 (host?_eq_some_iff.1 known)
        have named := Table.mem_names_of_mem (ordered.ordered.find?_eq_some_iff.1 mounted)
        rw [whole, String.append_empty]
        exact plain.of_mem stored named
      · rw [whole, ← mount]
        exact unslashed

variable [DecidableEq H] [DecidableEq A] [DecidableEq W]

/-- **A redirect makes progress**: whoever follows it gets the same version of the
same application on the same host, and is not redirected again. -/
theorem redirect_progresses (reachable : r.Reachable) (plain : r.PlainMounts) {target : String}
    (redirected : (r.resolve host uri requested).value.redirectPath = some target) :
    (r.resolve host uri requested).value.handler = none ∧
      (¬ ∃ front, uri = front ++ "/") ∧ target = uri ++ "/" ∧
      (∃ place version, r.requestedVersion? host uri requested = some (place, version) ∧
        r.requestedVersion? host target requested = some (place, version)) ∧
      (r.resolve host target requested).value.Alike (r.resolve host uri requested).value ∧
      (r.resolve host target requested).value.redirectPath = none := by
  have sound := reachable.sound
  obtain ⟨outcome, unslashed, place, version, found⟩ := sound.redirected plain redirected
  obtain ⟨handler, _, redirect⟩ := Outcome.mk.inj outcome
  obtain rfl : target = uri ++ "/" := Option.some.inj (redirected.symm.trans redirect)
  have found' := (requestedVersion?_append_slash sound plain host uri requested).trans found
  refine ⟨handler, unslashed, rfl, ⟨place, version, found, found'⟩, ?_, ?_⟩
  · obtain ⟨serving, application, known, mounted, alike⟩ := sound.alike_resolve found
    obtain ⟨serving', application', known', mounted', alike'⟩ := sound.alike_resolve found'
    obtain rfl := Option.some.inj (known.symm.trans known')
    obtain rfl := Option.some.inj (mounted.symm.trans mounted')
    exact alike'.trans alike.symm
  · by_contra again
    obtain ⟨next, redirected'⟩ := Option.ne_none_iff_exists'.1 again
    exact (sound.redirected plain redirected').2.1 ⟨uri, rfl⟩

/-- An application inside another, with a directory that redirects. -/
def docsInside : Router Nat Nat Nat :=
  runAll empty
    [.deploy "h" 0 { path := "/a", target := 1 },
      .deploy "h" 0
        { path := "/a/b"
          target := 2
          settings :=
            { resources := some (.listed [] ["/docs"]), directoryRedirect := true } }]

theorem redirect_progresses_docsInside :
    (docsInside.resolve "h" "/a/b/docs" none).value.redirectPath = some "/a/b/docs/" ∧
      (docsInside.resolve "h" "/a/b/docs/" none).value.application = some 2 ∧
      (docsInside.resolve "h" "/a/b/docs/" none).value.redirectPath = none := by
  have reachable : docsInside.Reachable := ⟨_, rfl⟩
  have plain : docsInside.PlainMounts := by
    intro name host stored path mounted
    have checked : (docsInside.entries.toList.all fun e => match e.2 with
        | .real host => host.mounts.applications.names.all fun path => !Text.endsWith "/" path
        | .aliasOf _ => true) = true := by decide +kernel
    have unslashed := List.all_eq_true.1 (List.all_eq_true.1 checked _ stored) path mounted
    refine .inr fun slashed => ?_
    rw [Text.endsWith_eq_true_iff.2 slashed] at unslashed
    cases unslashed
  have redirected : (docsInside.resolve "h" "/a/b/docs" none).value.redirectPath =
      some "/a/b/docs/" := by decide +kernel
  obtain ⟨_, _, _, _, alike, final⟩ := redirect_progresses reachable plain redirected
  refine ⟨redirected, ?_, final⟩
  rw [alike.application]
  decide +kernel

end Router

end VirtualHosting
