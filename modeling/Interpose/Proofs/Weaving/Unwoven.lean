import Interpose.Proofs.Container.Service
import Interpose.Proofs.Weaving.Phases

namespace Interpose

variable {σ : Type}

-- What a client is told upon a request.
def Request.Reply : Request σ → Type
  | .get _ => Handle
  | @Request.getTyped _ α _ _ => α
  | .makeEager => Unit
  | .provide _ => Value
  | @Request.run _ α _ => α

-- A request with what came of it: the outcome, and the session in which it was over.
structure Interaction (σ : Type) : Type 1 where
  request : Request σ
  outcome : Except Halt request.Reply
  session : Session σ

namespace Container

def answer (c : Container σ) (services : Services σ) : (r : Request σ) → Act σ r.Reply
  | .get typeName => c.get services typeName
  | .getTyped kind typeName => do
    Act.check (kind.exactly (← c.get services typeName).target)
  | .makeEager => c.makeEager services
  | .provide typeName => c.providers.get services typeName
  | .run code => code.runPlain services

-- All that clients see of the container.
def transcript (c : Container σ) (depth : Nat) : List (Request σ) → Session σ → List (Interaction σ)
  | [], _ => []
  | r :: rs, s =>
    let (outcome, t) := c.answer (c.services depth) r s
    ⟨r, outcome, t⟩ :: c.transcript depth rs t

end Container

-- No advice applies anywhere in the container, and it goes about its components as they are.
structure WovenContainer.Plain (w : WovenContainer σ) (registry : Registry σ)
    (outside : String → Definition σ) : Prop where
  container            : w.container = .plain registry outside
  hasProxy             : ∀ name, w.layer.hasProxy name = false
  weavesAllocation     : ∀ name, w.layer.weavesAllocation name = false
  weavesInitialization : ∀ name, w.layer.weavesInitialization name = false
  weavesFields         : ∀ name, w.layer.weavesFields name = false

-- A bare layer asks for no proxies.
theorem Proxies.ofLayer_bare (types : Hierarchy) (r : Registry σ) (providers : Providers σ) :
    ofLayer (.bare types) r providers = .ok ⟨[]⟩ := by
  have hf : (r.definitions.filter fun d => (Layer.bare (σ := σ) types).hasProxy d.name) = [] :=
    List.filter_eq_nil_iff.mpr fun _ _ => Bool.false_ne_true
  rw [ofLayer, hf]
  rfl

theorem Layer.weave_of_disabled {config : WeavingConfig} (h : config.enabled = false)
    (types : Hierarchy) (advices : List (Advice σ)) :
    weave types advices config = .ok (bare types) := by
  rw [weave, h]
  rfl

namespace Blueprint

variable {b : Blueprint σ}

-- The container with all its components as they are.
def unwoven (b : Blueprint σ) (outside : String → Definition σ) : WovenContainer σ where
  container := .plain b.registry outside
  layer := .bare b.registry.hierarchy
  table := ⟨[]⟩

theorem unwoven_plain (b : Blueprint σ) (outside : String → Definition σ) :
    (b.unwoven outside).Plain b.registry outside :=
  ⟨rfl, fun _ => rfl, fun _ => rfl, fun _ => rfl, fun _ => rfl⟩

-- The aspects are not even looked at.
theorem weave_of_disabled (h : b.config.enabled = false) (outside : String → Definition σ) :
    b.weave outside = .ok (b.unwoven outside) := by
  have ha : b.advices (b.unfinished outside) = .ok [] := by rw [advices, h]; rfl
  rw [weave, ha]
  simp only [Layer.weave_of_disabled h, Proxies.ofLayer_bare, bind, Except.bind, Except.mapError]
  rfl

-- Where weaving is off, building comes to making the singletons of the plain container, and fails
-- for no other reason. Then no advice applies to any type, and every request has the outcome that
-- it has there, however many others went before, and leaves the same session.
theorem build_of_disabled (h : b.config.enabled = false) (outside : String → Definition σ) :
    (∃ w, b.weave outside = .ok w ∧ w.Plain b.registry outside) ∧
    ∀ depth s,
      match (Container.plain b.registry outside).makeEager
        ((Container.plain b.registry outside).services depth) s with
      | (.ok (), t) => ∃ w, b.build outside depth s = (.ok (.ok w), t) ∧
        w.Plain b.registry outside ∧ ∀ depth' requests,
          w.container.transcript depth' requests t =
            (Container.plain b.registry outside).transcript depth' requests t
      | (.error (.failed g), t) => b.build outside depth s = (.ok (.error (.runtime g)), t)
      | (.error .exhausted, t) => b.build outside depth s = (.error .exhausted, t) := by
  have hw := weave_of_disabled h outside
  have hp := b.unwoven_plain outside
  refine ⟨⟨_, hw, hp⟩, fun depth s => ?_⟩
  have hb := build_of_ok hw depth s
  rw [hp.container] at hb
  rcases hm : (Container.plain b.registry outside).makeEager
    ((Container.plain b.registry outside).services depth) s with ⟨_ | _, t⟩ <;> rw [hm] at hb
  case ok => exact ⟨_, hb, ⟨rfl, hp.hasProxy, hp.weavesAllocation, hp.weavesInitialization,
    hp.weavesFields⟩, fun _ _ => rfl⟩
  case error halt => cases halt <;> exact hb

-- An aspect with a pointcut that cannot be read, and with an advice that takes no join point.
def gloom : Aspect Unit :=
  ((Aspect.make (.plain "shop.Gloom") fun _ => return .unit).around
    ((Method.advice "fall").around "autowire(") .unit fun _ _ => return .unit).around
    ({ Method.advice "lift" with params := [] }.around "autowire(*)") .unit fun _ _ => return .unit

def gloomyShop : Blueprint Unit where
  registry := ⟨[.make (.plain "shop.Stool") fun _ => return .unit, gloom.component],
    by decide +kernel⟩
  catalog := Catalog.empty.insert gloom.name gloom.advices
  config := { WeavingConfig.default with enabled := false }

-- The shop could not be woven, but without weaving it is built.
theorem build_of_disabled_shop :
    ((gloomyShop.withConfig .default).weave elsewhere).isOk = false ∧
    gloomyShop.config.enabled = false ∧
    ∃ w t, gloomyShop.build elsewhere 1 (.start ()) = (.ok (.ok w), t) ∧
      w.Plain gloomyShop.registry elsewhere ∧ ∀ depth requests,
        w.container.transcript depth requests t =
          (Container.plain gloomyShop.registry elsewhere).transcript depth requests t := by
  have ho : ((Container.plain gloomyShop.registry elsewhere).makeEager
      ((Container.plain gloomyShop.registry elsewhere).services 1) (.start ())).1.isOk := by
    decide +kernel
  have hb := (build_of_disabled (b := gloomyShop) rfl elsewhere).right 1 (.start ())
  rcases hm : (Container.plain gloomyShop.registry elsewhere).makeEager
    ((Container.plain gloomyShop.registry elsewhere).services 1) (.start ()) with ⟨_ | _, t⟩
  case error => rw [hm] at ho; cases ho
  case ok =>
    rw [hm] at hb
    have ⟨w, hw, hp, ht⟩ := hb
    exact ⟨by decide +kernel, rfl, w, t, hw, hp, ht⟩

end Blueprint
end Interpose
