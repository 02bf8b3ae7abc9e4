import Interpose.Proofs.Keyed
import Interpose.Proofs.Outcome
import Interpose.Weaving.Container

namespace Interpose

-- Code by the component that it belongs to, and by its name if it is that of a method or an advice.
structure Recoding (τ : Type) where
  allocation     : String → AllocationCode τ
  initialization : String → InitializationCode τ
  method         : String → String → MethodCode τ
  advice         : String → String → AdviceBody τ

variable {σ τ : Type} (f : Recoding τ)

namespace Definition

def recoded (d : Definition σ) : Definition τ where
  type := d.type
  scope := d.scope
  lazy := d.lazy
  allocator := f.allocation d.name
  initializer := d.initializer.map fun _ => f.initialization d.name
  bodies := d.bodies.map fun e => (e.1, f.method d.name e.1)

theorem body?_recoded (d : Definition σ) (method : String) :
    (d.recoded f).body? method = (d.body? method).map fun _ => f.method d.name method :=
  Keyed.lookup_map_snd (fun method _ => f.method d.name method) d.bodies method

end Definition

namespace Registry

def recoded (r : Registry σ) : Registry τ where
  definitions := r.definitions.map (·.recoded f)
  nodup := by
    rw [List.map_map]
    exact r.nodup

variable (r : Registry σ)

theorem hierarchy_recoded : (r.recoded f).hierarchy = r.hierarchy := by
  rw [hierarchy, recoded, List.map_map]
  rfl

theorem get?_recoded (name : String) :
    (r.recoded f).get? name = (r.get? name).map (·.recoded f) :=
  List.find?_map

theorem resolve_recoded (types : Hierarchy) (typeName : String) :
    (r.recoded f).resolve types typeName = (r.resolve types typeName).map (·.recoded f) := by
  rw [resolve, resolve, get?_recoded]
  cases r.get? typeName
  case some => rfl
  case none =>
    simp only [get?_recoded, Option.map_none, ← List.map_filterMap]
    generalize (types.conforming typeName).filterMap (fun t => r.get? t.name) = ds
    rcases ds with _ | ⟨d, _ | ⟨d', ds⟩⟩
    case nil      => rfl
    case cons.nil => rfl
    case cons.cons =>
      have hn : ((d :: d' :: ds).map (Definition.recoded f)).map Definition.name =
          (d :: d' :: ds).map Definition.name :=
        List.map_map
      exact congrArg (fun n => Except.error (ContainerError.ambiguousComponent typeName n)) hn

end Registry

-- A provider of a container is told by the component that it asks for.
def Provider.recoded (p : Provider σ) : Provider τ :=
  Container.provider p.typeName

namespace Advice

def recoded (a : Advice σ) : Advice τ where
  aspect := a.aspect
  method := a.method
  pointcut := a.pointcut
  provider := a.provider.recoded
  body := f.advice a.aspect a.method
  privilege := a.privilege

end Advice

namespace Advisors

def recoded (s : Advisors σ) : Advisors τ where
  advisors := s.advisors.map (·.recoded f)
  ascending := List.pairwise_map.mpr s.ascending

theorem place_recoded (a : Advice σ) (l : List (Advice σ)) :
    Ranked.place Advice.privilege (a.recoded f) (l.map (·.recoded f)) =
      (Ranked.place Advice.privilege a l).map (·.recoded f) := by
  induction l
  case nil => rfl
  case cons b l hi =>
    rw [List.map_cons, Ranked.place, Ranked.place, hi]
    change (if b.privilege ≤ a.privilege then _ else _) = _
    split <;> rfl

theorem insert_recoded (s : Advisors σ) (a : Advice σ) :
    (recoded f s).insert (a.recoded f) = recoded f (s.insert a) := by
  have hp := place_recoded f a s.advisors
  simp only [Ranked.insert, recoded, hp]

end Advisors

namespace AdvisorTable

variable {κ : Type} (key : κ → String × String)

def recoded (t : AdvisorTable κ σ) : AdvisorTable κ τ :=
  t.map fun e => (e.1, Advisors.recoded f e.2)

theorem attach_recoded (j : κ) (a : Advice σ) (t : AdvisorTable κ σ) :
    attach key j (a.recoded f) (recoded f t) = recoded f (attach key j a t) := by
  induction t
  case nil => rfl
  case cons e t hi =>
    simp only [attach, recoded, List.map_cons] at hi ⊢
    split
    case isTrue  => rw [List.map_cons, Advisors.insert_recoded]
    case isFalse => rw [List.map_cons, hi]

theorem ofAttachments_recoded (l : List (κ × Advice σ)) :
    ofAttachments key (l.map fun e => (e.1, e.2.recoded f)) = recoded f (ofAttachments key l) := by
  have hf : ∀ t : AdvisorTable κ σ,
      (l.map fun e => (e.1, e.2.recoded f)).foldl (fun t e => attach key e.1 e.2 t) (recoded f t) =
        recoded f (l.foldl (fun t e => attach key e.1 e.2 t) t) := by
    induction l
    case nil => exact fun _ => rfl
    case cons e l hi =>
      intro t
      rw [List.map_cons, List.foldl_cons, List.foldl_cons, attach_recoded, hi]
  exact hf []

theorem find?_recoded (j : κ) (t : AdvisorTable κ σ) :
    find? key j (recoded f t) = (find? key j t).map (Advisors.recoded f) := by
  rw [find?, find?, recoded, List.find?_map, Option.map_map, Option.map_map]
  rfl

end AdvisorTable

namespace Layer

def recoded (l : Layer σ) : Layer τ where
  types := l.types
  methodAdvisors := AdvisorTable.recoded f l.methodAdvisors
  fieldAdvisors := AdvisorTable.recoded f l.fieldAdvisors
  proxies := l.proxies
  allocationWoven := l.allocationWoven
  initializationWoven := l.initializationWoven
  fieldsWoven := l.fieldsWoven
  dummies := l.dummies.map (·.recoded f)
  summary := l.summary
  closed := l.closed

theorem onMethod_recoded (l : Layer σ) (j : MethodJoint) :
    (l.recoded f).onMethod j = (l.onMethod j).map (Advisors.recoded f) :=
  AdvisorTable.find?_recoded ..

theorem onField_recoded (l : Layer σ) (j : FieldJoint) :
    (l.recoded f).onField j = (l.onField j).map (Advisors.recoded f) :=
  AdvisorTable.find?_recoded ..

variable (types : Hierarchy) (advices : List (Advice σ)) (config : WeavingConfig)

theorem attachments_recoded {κ : Type} {chosen : Advice σ → List κ} {chosen' : Advice τ → List κ}
    (hc : ∀ a : Advice σ, chosen' (a.recoded f) = chosen a) :
    (advices.map (·.recoded f)).flatMap (fun a => (chosen' a).map (·, a)) =
      (advices.flatMap fun a => (chosen a).map (·, a)).map fun e => (e.1, e.2.recoded f) := by
  rw [List.flatMap_map, List.map_flatMap]
  refine List.flatMap_congr fun a _ => ?_
  rw [List.map_map, hc]
  rfl

theorem cover_recoded :
    cover types (advices.map (·.recoded f)) = (cover types advices).recoded f := by
  have hm := attachments_recoded f advices fun a =>
    show advisedMethods types (a.recoded f) = advisedMethods types a from rfl
  have hf := attachments_recoded f advices fun a =>
    show advisedFields types (a.recoded f) = advisedFields types a from rfl
  have hd : (advices.map (·.recoded f)).filter (isDummy types) =
      (advices.filter (isDummy types)).map (·.recoded f) := List.filter_map
  simp only [cover, recoded, hm, hf, hd, AdvisorTable.ofAttachments_recoded]
  simp only [AdvisorTable.recoded, List.map_map, List.length_map]
  rfl

theorem weave_recoded : weave types (advices.map (·.recoded f)) config =
    (weave types advices config).map (·.recoded f) := by
  have hd : (advices.map (·.recoded f)).find? (isDummy types) =
      (advices.find? (isDummy types)).map (·.recoded f) := List.find?_map
  rw [weave, weave, hd, cover_recoded]
  cases config.enabled
  case false => rfl
  case true =>
    cases config.failOnDummy <;> cases advices.find? (isDummy types) <;> rfl

end Layer

namespace Catalog

def recoded (c : Catalog σ) : Catalog τ where
  aspects := c.aspects.map fun e => (e.1, e.2.map fun e' => (e'.1, f.advice e.1 e'.1))

theorem body?_recoded (c : Catalog σ) (aspect method : String) :
    (c.recoded f).body? aspect method =
      (c.body? aspect method).map fun _ => f.advice aspect method := by
  have ha := Keyed.lookup_map_snd (fun aspect (bodies : List (String × AdviceBody σ)) =>
    bodies.map fun e => (e.1, f.advice aspect e.1)) c.aspects aspect
  rw [body?, body?, recoded, ha]
  cases c.aspects.lookup aspect
  case none => rfl
  case some bodies =>
    exact Keyed.lookup_map_snd (fun method _ => f.advice aspect method) bodies method

end Catalog

-- The code of a proxy is that of the component that it is for.
def Intercepted.recoded (typeName method : String) : Intercepted σ → Intercepted τ
  | .method _ => .method (f.method typeName method)
  | allocation _ => .allocation (f.allocation typeName)
  | initialization _ => .initialization (f.initialization typeName)

def MethodChain.recoded (typeName : String) (c : MethodChain σ) : MethodChain τ where
  joint := c.joint
  types := c.types
  intercepted := c.intercepted.recoded f typeName c.joint.name
  advisors := Advisors.recoded f c.advisors

def AutowireChain.recoded (c : AutowireChain σ) : AutowireChain τ where
  joint := c.joint
  provider := c.provider.map Provider.recoded
  advisors := Advisors.recoded f c.advisors

def Passage.recoded (typeName method : String) : Passage σ → Passage τ
  | direct _ => direct (f.method typeName method)
  | woven c => woven (c.recoded f typeName)

def Proxy.recoded (p : Proxy σ) : Proxy τ where
  definition := p.definition.recoded f
  passages := p.passages.map fun e => (e.1, e.2.recoded f p.name e.1)
  newChain := p.newChain.map (·.recoded f p.name)
  initChain := p.initChain.map (·.recoded f p.name)
  wireChains := p.wireChains.map fun e => (e.1, e.2.recoded f)

def Proxies.recoded (t : Proxies σ) : Proxies τ where
  proxies := t.proxies.map (·.recoded f)

section Phases

-- Where components are found, and where they are found with the other code.
variable {providers : Providers σ} {providers' : Providers τ}
variable (hp : ∀ typeName, providers' typeName = (providers typeName).map Provider.recoded)

namespace Classification

variable (catalog : Catalog σ)

theorem bodyOf_recoded (aspect method : String) : bodyOf (catalog.recoded f) aspect method =
    (bodyOf catalog aspect method).map fun _ => f.advice aspect method := by
  rw [bodyOf, bodyOf, Catalog.body?_recoded]
  cases catalog.body? aspect method <;> rfl

include hp

theorem adviceOf_recoded (t : TypeDescription) (m : Method) :
    adviceOf (catalog.recoded f) providers' t m =
      Advice.recoded f <$> adviceOf catalog providers t m := by
  rw [adviceOf, adviceOf, bodyOf_recoded, hp]
  simp only [map_bind]
  refine bind_congr fun _ => bind_congr fun p => bind_congr fun _ => ?_
  cases bodyOf catalog t.name m.name
  case error => rfl
  case ok =>
    cases providers t.name
    case error => rfl
    case ok => cases t.advicePrivilege m.name <;> rfl

theorem advices_recoded (types : Hierarchy) : advices (catalog.recoded f) providers' types =
    List.map (Advice.recoded f) <$> advices catalog providers types := by
  rw [advices, advices, ← Outcome.mapM_map]
  simp only [adviceOf_recoded f hp]

end Classification

namespace Proxy

variable (l : Layer σ) (d : Definition σ) (j : MethodJoint) (k : FieldJoint)

theorem passage?_recoded : passage? (l.recoded f) (d.recoded f) j =
    (passage? l d j).map fun e => (e.1, e.2.recoded f d.name e.1) := by
  simp only [passage?, Definition.body?_recoded, Layer.onMethod_recoded]
  cases j.method.kind <;> cases d.body? j.name <;> cases l.onMethod j <;> rfl

theorem newChain?_recoded : newChain? (l.recoded f) (d.recoded f) j =
    (newChain? l d j).map (·.recoded f d.name) := by
  simp only [newChain?, Layer.onMethod_recoded]
  cases j.method.kind <;> cases l.onMethod j <;> rfl

theorem initChain?_recoded : initChain? (l.recoded f) (d.recoded f) j =
    (initChain? l d j).map (·.recoded f d.name) := by
  have hi : (d.recoded f).initializer = d.initializer.map fun _ => f.initialization d.name := rfl
  simp only [initChain?, Layer.onMethod_recoded, hi]
  cases j.method.kind <;> cases d.initializer <;> cases l.onMethod j <;> rfl

include hp

theorem fieldProvider_recoded (typeName : String) : fieldProvider providers' typeName =
    (fieldProvider providers typeName).map (·.map Provider.recoded) := by
  rw [fieldProvider, fieldProvider, hp]
  cases providers typeName
  case ok => rfl
  case error e => cases e <;> rfl

theorem injectionChain_recoded : injectionChain (l.recoded f) providers' k =
    (·.map fun e => (e.1, e.2.recoded f)) <$> injectionChain l providers k := by
  rw [injectionChain, injectionChain, Layer.onField_recoded, fieldProvider_recoded hp]
  cases l.onField k
  case none => rfl
  case some => cases fieldProvider providers k.field.fieldType <;> rfl

theorem ofDefinition_recoded : ofDefinition (l.recoded f) providers' (d.recoded f) =
    recoded f <$> ofDefinition l providers d := by
  have hc : injectionChain (l.recoded f) providers' =
      fun k => (·.map fun e => (e.1, e.2.recoded f)) <$> injectionChain l providers k :=
    funext fun k => injectionChain_recoded f hp l k
  have ht : (l.recoded f).types.get? (d.recoded f).name = l.types.get? d.name := rfl
  rw [ofDefinition, ofDefinition, ht]
  cases l.types.get? d.name
  case none => rfl
  case some t =>
    simp only [hc, Outcome.mapM_map]
    cases t.fieldJoints.mapM (injectionChain l providers)
    case error => rfl
    case ok chains =>
      have hw : (chains.map (·.map fun e => (e.1, e.2.recoded f))).filterMap id =
          (chains.filterMap id).map fun e => (e.1, e.2.recoded f) := by
        rw [List.filterMap_map, List.map_filterMap]
        rfl
      refine congrArg Except.ok ?_
      simp only [recoded, hw, passage?_recoded, newChain?_recoded, initChain?_recoded,
        ← List.map_filterMap, List.getLast?_map]
      rfl

end Proxy

namespace Proxies

include hp

theorem ofLayer_recoded (l : Layer σ) (r : Registry σ) :
    ofLayer (l.recoded f) (r.recoded f) providers' = recoded f <$> ofLayer l r providers := by
  have hd : (r.recoded f).definitions.filter (fun d => (l.recoded f).hasProxy d.name) =
      (r.definitions.filter fun d => l.hasProxy d.name).map (·.recoded f) :=
    List.filter_map
  have ho : Proxy.ofDefinition (l.recoded f) providers' ∘ (·.recoded f) =
      fun d => Proxy.recoded f <$> Proxy.ofDefinition l providers d :=
    funext fun d => Proxy.ofDefinition_recoded f hp l d
  rw [ofLayer, ofLayer, hd, List.mapM_map, ho, Outcome.mapM_map]
  cases (r.definitions.filter fun d => l.hasProxy d.name).mapM (Proxy.ofDefinition l providers) <;>
    rfl

end Proxies
end Phases

namespace Blueprint

def recoded (b : Blueprint σ) : Blueprint τ where
  registry := b.registry.recoded f
  catalog := b.catalog.recoded f
  config := b.config

end Blueprint

-- The container of the other code.
def WovenContainer.recoded (w : WovenContainer σ) (outside : String → Definition τ) :
    WovenContainer τ where
  container := {
    registry := w.container.registry.recoded f
    types := w.container.types
    construction := w.container.construction.map fun _ => (w.table.recoded f).construction
    outside := outside }
  layer := w.layer.recoded f
  table := w.table.recoded f

namespace Blueprint

variable (b : Blueprint σ) (outside : String → Definition σ) (outside' : String → Definition τ)

theorem providers_recoded (typeName : String) :
    ((b.recoded f).unfinished outside').providers typeName =
      ((b.unfinished outside).providers typeName).map Provider.recoded := by
  have hr : ((b.recoded f).unfinished outside').resolve typeName =
      ((b.unfinished outside).resolve typeName).map (·.recoded f) := by
    change (b.registry.recoded f).resolve (b.registry.recoded f).hierarchy typeName = _
    rw [Registry.hierarchy_recoded, Registry.resolve_recoded]
    rfl
  rw [Container.providers, Container.providers, Container.componentFor, Container.componentFor, hr]
  cases (b.unfinished outside).resolve typeName <;> rfl

theorem advices_recoded : (b.recoded f).advices ((b.recoded f).unfinished outside') =
    (b.advices (b.unfinished outside)).map (List.map (Advice.recoded f)) := by
  have ht : ((b.recoded f).unfinished outside').types = (b.unfinished outside).types :=
    Registry.hierarchy_recoded f b.registry
  have ha := Classification.advices_recoded f (b.providers_recoded f outside outside') b.catalog
    (b.unfinished outside).types
  rw [advices, advices, ht]
  change (if b.config.enabled then
    ((Classification.advices (b.catalog.recoded f) _ _).run .empty).1 else _) = _
  rw [ha]
  cases b.config.enabled
  case false => rfl
  case true => exact Step.fst_run_map ..

-- Weaving goes the same way with any other code.
theorem weave_recoded : (b.recoded f).weave outside' =
    (b.weave outside).map (·.recoded f outside') := by
  have hp := b.providers_recoded f outside outside'
  have ht : ((b.recoded f).unfinished outside').types = (b.unfinished outside).types :=
    Registry.hierarchy_recoded f b.registry
  have hl := Proxies.ofLayer_recoded f hp
  have hr : (b.recoded f).registry = b.registry.recoded f := rfl
  have hc : (b.recoded f).config = b.config := rfl
  simp only [weave, b.advices_recoded f outside outside', ht, hr, hc]
  cases b.advices (b.unfinished outside)
  case error => rfl
  case ok advices =>
    change Layer.weave _ (advices.map _) _ >>= _ = Except.map _ (Layer.weave _ advices _ >>= _)
    rw [Layer.weave_recoded]
    cases Layer.weave (b.unfinished outside).types advices b.config
    case error => rfl
    case ok layer =>
      change (Proxies.ofLayer (layer.recoded f) _ _).mapError _ >>= _ =
        Except.map _ ((Proxies.ofLayer layer _ _).mapError _ >>= _)
      rw [hl]
      cases Proxies.ofLayer layer b.registry (b.unfinished outside).providers
      case error => rfl
      case ok => rfl

end Blueprint
end Interpose
