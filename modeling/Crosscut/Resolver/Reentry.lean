import Crosscut.Resolver

/-! Containers that change while they are scanned. A container may hold back a bean until it is next
asked for its beans: it answers with the beans it had, then adds the bean and declares itself
stale. The resolver must not keep what such a scan found. Every time a container is asked, the
question is recorded together with what the resolver knew of the container at that moment. -/
namespace Crosscut

/-- A container with the bean that it holds back. -/
structure BeanSource where
  plugin : List Bean
  global : List Bean
  heldBack : Option Bean

/-- A question that a container was asked. -/
structure Inquiry where
  scope : BeanScope
  state : ScanState
deriving DecidableEq, Repr

/-- A resolver, the containers it serves and the questions it has asked. -/
structure ScanSession where
  resolver : Resolver
  sources : Table String BeanSource
  inquiries : List Inquiry

namespace BeanSource

def empty : BeanSource := ⟨[], [], none⟩

def beans (s : BeanSource) : BeanScope → List Bean
  | .plugin => s.plugin
  | .global => s.global

def add (s : BeanSource) (bean : Bean) : BeanScope → BeanSource
  | .plugin => { s with plugin := s.plugin ++ [bean] }
  | .global => { s with global := s.global ++ [bean] }

/-- Holds a bean back until the container is next asked. -/
def holdBack (s : BeanSource) (bean : Bean) : BeanSource :=
  { s with heldBack := some bean }

end BeanSource

namespace ScanSession

def source (s : ScanSession) (id : String) : BeanSource :=
  (s.sources.get? id).getD .empty

/-- Changes the container of an id without telling the resolver. -/
def change (s : ScanSession) (id : String) (f : BeanSource → BeanSource) : ScanSession :=
  { s with sources := s.sources.insert id (f (s.source id)) }

def invalidate (s : ScanSession) (id : String) : ScanSession :=
  { s with resolver := s.resolver.invalidate id }

/-- Asks a container for the beans of a scope. -/
def ask (id : String) (scope : BeanScope) : StateM ScanSession (List Bean) := fun s =>
  let beans := (s.source id).beans scope
  let recorded := { s with inquiries := s.inquiries ++ [⟨scope, s.resolver.state id⟩] }
  match (s.source id).heldBack with
  | none => (beans, recorded)
  | some bean =>
    (beans, (recorded.change id fun c => { c.add bean .plugin with heldBack := none }).invalidate id)

/-- The interceptors of a container, which is asked for its beans if no list is kept. -/
def interceptors (id : String) :
    StateM ScanSession (Except ResolveError (List Interceptor)) := fun s =>
  match s.resolver.cache.get? id with
  | some list => (.ok list, s)
  | none =>
    let (ticket, begun) := s.resolver.cache.begin id
    let (scanned, scannedSession) :=
      s.resolver.policy.scanning (ask id) { s with resolver := { s.resolver with cache := begun } }
    let (found, resolver) := scannedSession.resolver.finish ticket scanned
    (found, { scannedSession with resolver })

/-- The interceptors of a container that apply to a type. -/
def resolve (id : String) (t : HostType) :
    StateM ScanSession (Except ResolveError (List Interceptor)) := fun s =>
  if s.resolver.policy.skips t then (.ok [], s)
  else
    let (found, after) := interceptors id s
    let (woven, resolver) :=
      after.resolver.weave id t (after.resolver.isCurrent s.resolver id) found
    (woven, { after with resolver })

end ScanSession
end Crosscut
