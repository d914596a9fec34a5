/-
# Application — versions of an application and where they are mounted

An application is mounted at a path of its host: nothing for the root
application, otherwise a text such as `/shop`. Several versions of it may be
deployed side by side under different labels. `Mounts` is a host's applications
with the greatest number of slashes in a mount path.

* `welcomeFiles_addWelcome`: adding a welcome file changes nothing else;
* `find?_empty`: nothing is mounted on a new host.
-/
import VirtualHosting.Handler
import VirtualHosting.Resource

namespace VirtualHosting

set_option autoImplicit false

/-- What a deployment decides about a version beside its handlers. -/
structure Settings where
  /-- Asked for welcome files and directory redirects. -/
  resources : Option Probe := none
  /-- File names to try on a request for a directory, in this order. -/
  welcomeFiles : List String := []
  /-- Redirect a request for the bare mount path to that path and a slash. -/
  rootRedirect : Bool := true
  /-- Redirect a request that names a directory to its path and a slash. -/
  directoryRedirect : Bool := false

/-- All that it takes to deploy a version. -/
structure Deployment (A W : Type) where
  path : String
  version : String := ""
  target : A
  settings : Settings := {}
  handlers : List (HandlerMapping W) := []

/-- A deployed version. -/
structure Version (A W : Type) where
  /-- The mount path of its application. -/
  path : String
  target : A
  settings : Settings
  handlers : HandlerSet W
  /-- Such a version is still selected, but none of its handlers is. -/
  paused : Bool := false

namespace Version

variable {A W : Type}

/-- The number of slashes in the mount path. -/
def slashCount (v : Version A W) : Nat :=
  Slash.count v.path

def pause (v : Version A W) : Version A W :=
  { v with paused := true }

def withHandlers (v : Version A W) (handlers : HandlerSet W) : Version A W :=
  { v with handlers }

def withWelcomeFiles (v : Version A W) (welcomeFiles : List String) : Version A W :=
  { v with settings := { v.settings with welcomeFiles } }

/-- The version with one more welcome file at the end. -/
def addWelcome (v : Version A W) (name : String) : Version A W :=
  v.withWelcomeFiles (v.settings.welcomeFiles ++ [name])

/-- The version without the first welcome file of that name. -/
def removeWelcome (v : Version A W) (name : String) : Version A W :=
  v.withWelcomeFiles (v.settings.welcomeFiles.erase name)

@[simp]
theorem welcomeFiles_addWelcome (v : Version A W) (name : String) :
    (v.addWelcome name).settings.welcomeFiles = v.settings.welcomeFiles ++ [name] := rfl

end Version

/-- The versions of one application by their labels. -/
structure Application (A W : Type) where
  versions : Table (Version A W) := {}

/-- The applications of one host by their mount paths. -/
structure Mounts (A W : Type) where
  applications : Table (Application A W) := {}
  /-- The greatest number of slashes in a mount path. -/
  nesting : Nat := 0

namespace Mounts

variable {A W : Type}

/-- Nothing mounted. -/
def empty : Mounts A W := {}

/-- The application mounted at a path. -/
def find? (mounts : Mounts A W) (path : String) : Option (Application A W) :=
  mounts.applications.find? path

/-- The version deployed at a path under a label. -/
def version? (mounts : Mounts A W) (path label : String) : Option (Version A W) :=
  (mounts.find? path).bind (·.versions.find? label)

/-- Mounts one more application; refused if the path is taken. -/
def add? (mounts : Mounts A W) (path : String) (application : Application A W) :
    Option (Mounts A W) :=
  (mounts.applications.insert? path application).map fun applications =>
    { applications, nesting := max mounts.nesting (Slash.count path) }

/-- Takes an application away; refused if there is none at the path. -/
def remove? (mounts : Mounts A W) (path : String) : Option (Mounts A W) :=
  (mounts.applications.erase? path).map fun applications =>
    { applications, nesting := applications.nesting }

/-- Changes the versions of the application at a path. -/
def modifyVersions (mounts : Mounts A W) (path : String)
    (f : Table (Version A W) → Table (Version A W)) : Mounts A W :=
  { mounts with applications := mounts.applications.modify path fun a => ⟨f a.versions⟩ }

/-- The mount that a request path belongs to: the most specific one that covers
it, else the root application. -/
def select? (mounts : Mounts A W) (uri : String) : Option (String × Application A W) :=
  mounts.applications.covering? uri mounts.nesting <|>
    mounts.applications.first?.filter (·.1 == "")

@[simp]
theorem find?_empty (path : String) : (empty : Mounts A W).find? path = none :=
  Table.find?_empty path

end Mounts

end VirtualHosting
