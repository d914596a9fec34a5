/-
# Host — virtual hosts and their aliases

A host owns the applications mounted on it. An alias is another name for a host:
it has no applications of its own and follows its host in everything. Names are
stored folded, and `*.example.com`, which stands for every subdomain, is stored
as the suffix `.example.com`.

* `normalize_normalize`: a stored name is its own stored form.
-/
import VirtualHosting.Application

namespace VirtualHosting

set_option autoImplicit false

/-- The suffix that a name starting with `*.` stands for; other names as they are. -/
def starSuffix (name : String) : String :=
  match name.toList with
  | '*' :: '.' :: rest => String.ofList ('.' :: rest)
  | _ => name

/-- The name under which a host or alias is stored. -/
def normalizeHostName (name : String) : String :=
  starSuffix (Text.fold name)

/-- A host and what is mounted on it. -/
structure Host (H A W : Type) where
  target : H
  mounts : Mounts A W := {}
  /-- The names of the host's aliases, the oldest first. -/
  aliases : List String := []

/-- What a name of the host table stands for. -/
inductive HostEntry (H A W : Type) where
  /-- A host of its own. -/
  | real (host : Host H A W)
  /-- Another name for the host stored under `host`. -/
  | aliasOf (host : String)

namespace HostEntry

variable {H A W : Type}

def isAlias : HostEntry H A W → Bool
  | real _ => false
  | aliasOf _ => true

/-- The name of the host behind the entry stored under `name`. -/
def realName (name : String) : HostEntry H A W → String
  | real _ => name
  | aliasOf host => host

/-- Whether the entry stored under `name` is `host` or one of its aliases. -/
def belongsTo (host name : String) (entry : HostEntry H A W) : Bool :=
  entry.realName name == host

/-- Changes the host, if the entry is one. -/
def modify (f : Host H A W → Host H A W) : HostEntry H A W → HostEntry H A W
  | real host => real (f host)
  | aliasOf host => aliasOf host

end HostEntry

theorem starSuffix_eq_self {name : String} (plain : ∀ rest, name.toList ≠ '*' :: '.' :: rest) :
    starSuffix name = name := by
  unfold starSuffix
  split
  · rename_i rest star
    exact absurd star (plain rest)
  · rfl

theorem starSuffix_starSuffix (name : String) :
    starSuffix (starSuffix name) = starSuffix name := by
  by_cases starred : ∃ rest, name.toList = '*' :: '.' :: rest
  · obtain ⟨rest, star⟩ := starred
    have suffix : starSuffix name = String.ofList ('.' :: rest) := by
      unfold starSuffix
      rw [star]
      rfl
    rw [suffix]
    exact starSuffix_eq_self (by simp)
  · have plain := starSuffix_eq_self fun rest star => starred ⟨rest, star⟩
    rw [plain, plain]

theorem fold_starSuffix {name : String} (folded : Text.fold name = name) :
    Text.fold (starSuffix name) = starSuffix name := by
  unfold starSuffix
  split
  · rename_i rest star
    have letters := congrArg String.toList folded
    simp only [Text.fold, String.toList_map, star, List.map_cons, List.cons.injEq] at letters
    apply String.toList_inj.1
    simp [Text.fold, letters.2.1, letters.2.2]
  · exact folded

theorem normalize_normalize (name : String) :
    normalizeHostName (normalizeHostName name) = normalizeHostName name := by
  unfold normalizeHostName
  rw [fold_starSuffix (Text.fold_fold name), starSuffix_starSuffix]

end VirtualHosting
