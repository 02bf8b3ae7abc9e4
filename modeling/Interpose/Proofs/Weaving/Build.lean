import Interpose.Proofs.Weaving.Classification
import Interpose.Proofs.Weaving.Proxy
import Interpose.Weaving.Container

namespace Interpose

open Outcome

namespace Blueprint

variable {σ : Type} {b b' : Blueprint σ} {d : Definition σ} {a : Aspect σ} {c : Container σ}
variable {outside : String → Definition σ} {w : WovenContainer σ} {s s' : Session σ} {depth : Nat}

-- The blueprints that can be put together step by step.
inductive Assembled : Blueprint σ → Prop
  | empty : Assembled empty
  | configured (b : Blueprint σ) (config : WeavingConfig) : Assembled b →
    Assembled (b.withConfig config)
  | component (b : Blueprint σ) (d : Definition σ) (b' : Blueprint σ) : Assembled b →
    b.component d = .ok b' → Assembled b'
  | aspect (b : Blueprint σ) (a : Aspect σ) (b' : Blueprint σ) : Assembled b →
    b.aspect a = .ok b' → Assembled b'

theorem component_eq_ok (h : b.component d = .ok b') :
    ∃ r, b.registry.register d = .ok r ∧ b' = { b with registry := r } := by
  obtain ⟨r, hr, h⟩ := bind_eq_ok.mp h
  exact ⟨r, eq_ok_of_mapError hr, (pure_eq_ok.mp h).symm⟩

theorem aspect_eq_ok (h : b.aspect a = .ok b') :
    ∃ b'', b.component a.component = .ok b'' ∧
      b' = { b'' with catalog := b''.catalog.insert a.name a.advices } := by
  obtain ⟨b'', hb, h⟩ := bind_eq_ok.mp h
  exact ⟨b'', hb, (pure_eq_ok.mp h).symm⟩

theorem Assembled.regular (h : b.Assembled) : b.registry.Regular := by
  have hc : ∀ {b b' : Blueprint σ} {d}, b.registry.Regular → b.component d = .ok b' →
      b'.registry.Regular := by
    intro b b' d hb h
    obtain ⟨r, hr, rfl⟩ := component_eq_ok h
    exact hb.register hr
  induction h
  case empty          => exact Registry.empty_regular
  case configured hi  => exact hi
  case component h hi => exact hc hi h
  case aspect h hi    =>
    obtain ⟨b'', hb, rfl⟩ := aspect_eq_ok h
    have hr := hc hi hb
    exact hr

-- The container that comes from the advices.
structure Weaves (b : Blueprint σ) (outside : String → Definition σ) (advices : List (Advice σ))
    (layer : Layer σ) (w : WovenContainer σ) : Prop where
  classified : b.advices (b.unfinished outside) = .ok advices
  layered    : Layer.weave b.registry.hierarchy advices b.config = .ok layer
  proxied    : Proxies.ofLayer layer b.registry (b.unfinished outside).providers = .ok w.table
  container  :
    w.container = { b.unfinished outside with construction := some w.table.construction }

theorem weave_eq_ok (h : b.weave outside = .ok w) :
    ∃ advices, b.Weaves outside advices w.layer w := by
  obtain ⟨advices, ha, h⟩ := bind_eq_ok.mp h
  obtain ⟨layer, hl, h⟩ := bind_eq_ok.mp h
  obtain ⟨table, ht, h⟩ := bind_eq_ok.mp h
  cases pure_eq_ok.mp h
  exact ⟨advices, ha, hl, eq_ok_of_mapError ht, rfl⟩

-- Making the singletons changes nothing about what has been woven.
theorem build_eq_ok (h : b.build outside depth s = (.ok (.ok w), s')) :
    ∃ w', b.weave outside = .ok w' ∧ w = { w' with layer := w'.layer.close } := by
  cases hw : b.weave outside <;> rw [build, hw] at h
  case error => cases (Step.pure_eq_ok.mp h).left
  case ok w' =>
    obtain ⟨r, t, _, h⟩ := Step.bind_eq_ok.mp h
    refine ⟨w', rfl, ?_⟩
    cases r
    case ok    => exact (Except.ok.inj (Step.pure_eq_ok.mp h).left).symm
    case error => cases (Step.pure_eq_ok.mp h).left

theorem weaves_of_build (h : b.build outside depth s = (.ok (.ok w), s')) :
    ∃ advices layer, b.Weaves outside advices layer w := by
  obtain ⟨w', hw, rfl⟩ := build_eq_ok h
  obtain ⟨advices, ha⟩ := weave_eq_ok hw
  exact ⟨advices, w'.layer, ha.classified, ha.layered, ha.proxied, ha.container⟩

end Blueprint
end Interpose
