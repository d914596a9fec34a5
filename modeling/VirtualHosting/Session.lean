/-
# Session — a table under administration and its readers

A `Session` is a router together with the resolution that one reader uses over
and over and with everything readers keep. Calls change the router and bring
along what is kept; lookups write over the reused resolution and change nothing else.
-/
import VirtualHosting.Resolution.Reuse
import VirtualHosting.Watch

namespace VirtualHosting

set_option autoImplicit false

/-- A router, the reused resolution and what is kept. -/
structure Session (H A W : Type) where
  router : Router H A W := {}
  resolution : Resolution H A W := {}
  watch : Watch H A W := {}

namespace Session

variable {H A W : Type} [DecidableEq H] [DecidableEq A] [DecidableEq W]

/-- Carries an administrative call out. -/
def call (s : Session H A W) (c : Call H A W) : Logged (Reply × Session H A W) := do
  let (reply, router) ← s.router.run c
  return (reply, { s with router, watch := s.watch.advance s.router router })

/-- Resolves into the reused resolution. -/
def resolve (s : Session H A W) (host uri : String) (requested : Option String) :
    Logged (Session H A W) := do
  return { s with resolution := ← s.router.resolveInto s.resolution host uri requested }

/-- Resolves within an application into the reused resolution. -/
def resolveWithin (s : Session H A W) (target : A) (uri : String) : Logged (Session H A W) := do
  return { s with resolution := ← s.router.resolveWithinInto s.resolution target uri }

/-- Clears the reused resolution. -/
def recycle (s : Session H A W) : Session H A W :=
  { s with resolution := s.resolution.recycle }

end Session

end VirtualHosting
