import Interpose.Weaving.Classification
import Interpose.Weaving.Hook

namespace Interpose

-- What a container with woven components is built from.
structure Blueprint (σ : Type) where
  registry : Registry σ
  catalog : Catalog σ
  config : WeavingConfig

structure WovenContainer (σ : Type) where
  container : Container σ
  layer : Layer σ
  table : Proxies σ

namespace Blueprint

variable {σ : Type}

def empty : Blueprint σ := ⟨.empty, .empty, .default⟩

def withConfig (b : Blueprint σ) (config : WeavingConfig) : Blueprint σ := { b with config }

def component (b : Blueprint σ) (d : Definition σ) : Except WeavingError (Blueprint σ) := do
  let registry ← (b.registry.register d).mapError WeavingError.container
  return { b with registry }

-- Adds an aspect, which is a component too.
def aspect (b : Blueprint σ) (a : Aspect σ) : Except WeavingError (Blueprint σ) := do
  let b ← b.component a.component
  return { b with catalog := b.catalog.insert a.name a.advices }

-- The container in which nothing can be made yet.
def unfinished (b : Blueprint σ) (outside : String → Definition σ) : Container σ where
  registry := b.registry
  types := b.registry.hierarchy
  construction := none
  outside := outside

-- The advices that the aspects declare; none if weaving is off.
def advices (b : Blueprint σ) (c : Container σ) : Except WeavingError (List (Advice σ)) :=
  if b.config.enabled then
    ((Classification.advices b.catalog c.providers c.types).run .empty).1
  else .ok []

def weave (b : Blueprint σ) (outside : String → Definition σ) :
    Except WeavingError (WovenContainer σ) := do
  let c := b.unfinished outside
  let advices ← b.advices c
  let layer ← Layer.weave c.types advices b.config
  let table ← (Proxies.ofLayer layer b.registry c.providers).mapError .container
  return {
    container := { c with construction := some table.construction }
    layer := layer
    table := table }

-- Weaves the components and makes the singletons that are not lazy. A failure of the latter is an
-- error of the whole.
def build (b : Blueprint σ) (outside : String → Definition σ) (depth : Nat) :
    Act σ (Except WeavingError (WovenContainer σ)) := do
  match b.weave outside with
  | .error e => return .error e
  | .ok w =>
    match ← (w.container.makeEager (w.container.services depth)).attempt with
    | .ok () => return .ok { w with layer := w.layer.close }
    | .error f => return .error (.runtime f)

end Blueprint

namespace WovenContainer

variable {σ : Type}

def summary (w : WovenContainer σ) : WeaveSummary := w.layer.summary

def hooks (w : WovenContainer σ) (template : String) (args : List String) :
    Except WeavingError (List (Joint × Hook σ)) :=
  Hook.ofTemplate w.layer w.table template args

def inspect (w : WovenContainer σ) : String :=
  let s := w.summary
  Text.record "WovenContainer" [
    ("container", w.container.inspect),
    ("summary", Text.record "WeaveSummary" [
      ("aspects", toString s.aspects), ("advices", toString s.advices),
      ("dummy_advices", toString s.dummies), ("proxies", toString s.proxies),
      ("intercepted_methods", toString s.methods), ("intercepted_fields", toString s.fields)])]

end WovenContainer
end Interpose
