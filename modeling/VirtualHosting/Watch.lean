/-
# Watch — what readers of the table hold on to

A reader may keep the host table as it found it, one of its entries, or a
version. What it keeps goes on following the table: a kept host shows versions
deployed since, and a kept alias shows its host's. Once the table lets go of the
thing, the reader has its last state.

An alias that was removed while its host stayed no longer learns of applications
its host gains or loses, but the applications it had are still those of the
host. It names its host only while somebody holds that host.

`Watch.advance` brings everything kept from one router to the next; the two must
be one call apart, so that no name has changed hands in between.
-/
import VirtualHosting.Router.Call
import VirtualHosting.Resolution.Resolve

namespace VirtualHosting

set_option autoImplicit false

variable {H A W : Type}

/-- A host that is in the table under a name, or the one that left it as the
`n`th. -/
inductive HostRef where
  | current (name : String)
  | former (serial : Nat)
  deriving DecidableEq, Repr

/-- The applications of an alias that was removed while its host stayed, and the
paths at which they are still those of the host. -/
structure Detached (A W : Type) where
  mounts : Mounts A W
  following : List String

/-- A kept entry of the host table. -/
inductive KeptEntry (A W : Type) where
  | host (ref : HostRef)
  | aliasOf (name : String) (host : HostRef) (detached : Option (Detached A W))

/-- A kept version: deployed at a place, or the last state of one that was. -/
inductive KeptVersion (A W : Type) where
  | current (place : Coordinates)
  | former (label : String) (version : Version A W)

/-- All that is kept, under the names it was kept by. -/
structure Watch (H A W : Type) where
  /-- The hosts that have left the table, with their names, the first first. -/
  formerHosts : Array (String × Host H A W) := #[]
  tables : List (String × List (KeptEntry A W)) := []
  entries : List (String × KeptEntry A W) := []
  versions : List (String × KeptVersion A W) := []

/-- What can be seen of an entry of the host table. -/
structure EntryView (H A W : Type) where
  name : String
  target : H
  isAlias : Bool
  /-- The name of the host behind the entry, if anybody still holds it. -/
  realHost : Option String
  aliases : List String
  mounts : Mounts A W

/-- The host behind the entry as far as it is known, else the entry itself. -/
def EntryView.realName (view : EntryView H A W) : String :=
  view.realHost.getD view.name

namespace Detached

/-- Every application still that of the host. -/
def ofMounts (mounts : Mounts A W) : Detached A W :=
  ⟨mounts, mounts.applications.names⟩

/-- Takes over what became of the applications that are still the host's. -/
def refresh (d : Detached A W) (host : Mounts A W) : Detached A W where
  following := d.following.filter fun path => (host.find? path).isSome
  mounts := { d.mounts with
    applications := d.following.foldl (fun applications path =>
      match host.find? path with
      | some application => applications.modify path fun _ => application
      | none => applications) d.mounts.applications }

end Detached

namespace Watch

def new : Watch H A W := {}

/-- Stores a value under a key, in place of an earlier one. -/
def store {α : Type} (key : String) (value : α) (kept : List (String × α)) : List (String × α) :=
  (key, value) :: kept.filter (·.1 != key)

/-! ## From one router to the next -/

/-- Follows a host: it may have left the table as the `serial`th. -/
def advanceRef (after : Router H A W) (serial : Nat) : HostRef → HostRef
  | .current name => if (after.host? name).isSome then .current name else .former serial
  | .former n => .former n

/-- Follows an entry. -/
def advanceEntry (before after : Router H A W) (serial : Nat) :
    KeptEntry A W → KeptEntry A W
  | .host ref => .host (advanceRef after serial ref)
  | .aliasOf name ref detached =>
    let next := advanceRef after serial ref
    match next with
    | .former _ => .aliasOf name next detached
    | .current host =>
      match detached with
      | some d =>
        .aliasOf name next (some (d.refresh (((after.host? host).map (·.mounts)).getD .empty)))
      | none =>
        match after.entries.find? name with
        | some (.aliasOf _) => .aliasOf name next none
        | _ =>
          .aliasOf name next
            (some (.ofMounts (((before.host? host).map (·.mounts)).getD .empty)))

/-- Follows a version. -/
def advanceVersion (before after : Router H A W) : KeptVersion A W → KeptVersion A W
  | .current place =>
    if (after.version? place).isSome then .current place
    else match before.version? place with
      | some version => .former place.version version
      | none => .current place
  | .former label version => .former label version

/-- Follows everything kept over one call. -/
def advance (w : Watch H A W) (before after : Router H A W) : Watch H A W :=
  let serial := w.formerHosts.size
  let departed := before.entries.toList.filterMap fun (name, entry) =>
    match entry with
    | .real host => if (after.host? name).isNone then some (name, host) else none
    | .aliasOf _ => none
  { formerHosts := w.formerHosts ++ departed.toArray
    tables := w.tables.map fun (key, kept) => (key, kept.map (advanceEntry before after serial))
    entries := w.entries.map fun (key, kept) => (key, advanceEntry before after serial kept)
    versions := w.versions.map fun (key, kept) => (key, advanceVersion before after kept) }

/-! ## Keeping -/

/-- An entry of the table as it is kept. -/
def keep (name : String) : HostEntry H A W → KeptEntry A W
  | .real _ => .host (.current name)
  | .aliasOf host => .aliasOf name (.current host) none

/-- Keeps the whole host table. -/
def keepTable (w : Watch H A W) (r : Router H A W) (key : String) : Watch H A W :=
  { w with
    tables := store key (r.entries.toList.map fun (name, entry) => keep name entry) w.tables }

/-- Lets go of a host table, and says whether it was kept. -/
def dropTable (w : Watch H A W) (key : String) : Bool × Watch H A W :=
  (w.tables.any (·.1 == key), { w with tables := w.tables.filter (·.1 != key) })

/-- Keeps the entry stored under exactly this name, and says whether there is one. -/
def keepEntry (w : Watch H A W) (r : Router H A W) (name key : String) : Bool × Watch H A W :=
  match r.entries.find? name with
  | none => (false, w)
  | some entry => (true, { w with entries := store key (keep name entry) w.entries })

/-- Keeps the version at a place, if there is one. -/
def keepVersion (w : Watch H A W) (r : Router H A W) (place : Coordinates) (key : String) :
    Except Refusal (Watch H A W) :=
  match r.find place with
  | .error refusal => .error refusal
  | .ok _ => .ok { w with versions := store key (.current (Router.stored place)) w.versions }

/-! ## Looking -/

/-- Whether an entry is the host itself. -/
def isHost (ref : HostRef) : KeptEntry A W → Bool
  | .host kept => kept == ref
  | .aliasOf .. => false

/-- Whether somebody holds the host: the table, or a reader. -/
def holds (w : Watch H A W) : HostRef → Bool
  | .current _ => true
  | .former n =>
    w.tables.any (fun (_, kept) => kept.any (isHost (.former n))) ||
      w.entries.any fun (_, kept) => isHost (.former n) kept

/-- The host meant, with its name. -/
def host? (w : Watch H A W) (r : Router H A W) : HostRef → Option (String × Host H A W)
  | .current name => (r.host? name).map fun host => (name, host)
  | .former n => w.formerHosts[n]?

/-- What can be seen of a kept entry. -/
def view? (w : Watch H A W) (r : Router H A W) : KeptEntry A W → Option (EntryView H A W)
  | .host ref => do
    let (name, host) ← w.host? r ref
    return { name, target := host.target, isAlias := false, realHost := some name,
             aliases := host.aliases, mounts := host.mounts }
  | .aliasOf name ref detached => do
    let (realName, host) ← w.host? r ref
    return { name, target := host.target, isAlias := true,
             realHost := if w.holds ref then some realName else none,
             aliases := [], mounts := (detached.map (·.mounts)).getD host.mounts }

/-- What can be seen of the host table as it is. -/
def currentViews (w : Watch H A W) (r : Router H A W) : List (EntryView H A W) :=
  r.entries.toList.filterMap fun (name, entry) => w.view? r (keep name entry)

/-- What can be seen of a kept host table. -/
def tableViews? (w : Watch H A W) (r : Router H A W) (key : String) :
    Option (List (EntryView H A W)) :=
  (w.tables.lookup key).map (·.filterMap (w.view? r))

/-- What can be seen of a kept entry. -/
def entryView? (w : Watch H A W) (r : Router H A W) (key : String) : Option (EntryView H A W) :=
  (w.entries.lookup key).bind (w.view? r)

/-- The label and state of a kept version. -/
def version? (w : Watch H A W) (r : Router H A W) (key : String) : Option (String × Version A W) :=
  match w.versions.lookup key with
  | some (.current place) => (r.version? place).map fun version => (place.version, version)
  | some (.former label version) => some (label, version)
  | none => none

end Watch

end VirtualHosting
