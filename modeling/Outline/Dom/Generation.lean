import Outline.Dom.Building

/-!
# Generating elements

A template is compiled, built and put into a container.  When it is refused nothing is built.

* `Store.generate`: the store with the elements of a template, its container and the roots.
-/

namespace Outline.Dom

def Building.Means.of (settings : Settings) (registry : Registry) : Building.Means where
  decode := if settings.decodesReferences then Reference.decode else .ok
  lookup := registry.lookup

structure Generated where
  container : Ref
  roots : List Ref
deriving DecidableEq, Repr

inductive Generation.Refusal where
  | template (refusal : Template.Refusal)
  /-- Content that cannot be decoded. -/
  | content (fault : Reference.Overlong)
deriving DecidableEq, Repr

namespace Store

/-- The store with a container, which is a new element unless one is given. -/
def withContainer (s : Store) (settings : Settings) : Option Ref → Store × Ref
  | some r => (s, r)
  | none => (s.create settings.container, s.next)

/-- The store after a template is compiled, built and put into a container. -/
def generate (s : Store) (settings : Settings) (registry : Registry) (template : Text)
    (container : Option Ref) :
    List Notice × Except Generation.Refusal (Store × Generated) :=
  let (notices, result) := Template.compile settings template
  match result with
  | .error r => (notices, .error (.template r))
  | .ok forest =>
    let means := Building.Means.of settings registry
    let (s, container) := s.withContainer settings container
    let notices := notices ++ Building.notices means forest
    match s.build means forest with
    | .error o => (notices, .error (.content o))
    | .ok (s, roots) => (notices, .ok (s.mount container roots, ⟨container, roots⟩))

end Store

end Outline.Dom
