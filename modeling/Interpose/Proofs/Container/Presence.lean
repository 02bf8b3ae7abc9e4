import Interpose.Proofs.Component.Registry
import Interpose.Proofs.Container.Creation

namespace Interpose

variable {σ : Type} {s s' : Session σ} {made : List (String × Handle)}

-- The container is there, and in it the shared instances of some components.
structure Session.Has (made : List (String × Handle)) (s : Session σ) : Prop where
  alive : s.dropped = false
  cells : ∀ e ∈ made, s.cells.lookup e.1 = some e.2

theorem Session.Leaves.has (h : s.Leaves s') (hs : s.Has made) : s'.Has made where
  alive := h.dropped.trans hs.alive
  cells := fun e he => h.grows.cells (hs.cells e he)

-- Something holds of sessions whatever code does and asks for.
structure Services.Keeps (services : Services σ) (P : Session σ → Prop) : Prop where
  write  : ∀ s u, P s → P { s with user := u }
  get    : ∀ typeName s, P s → P (services.get typeName s).2
  invoke : ∀ h caller method args s, P s → P (services.invoke h caller method args s).2

theorem Services.Keeps.runPlain {services : Services σ} {P : Session σ → Prop} {α : Type}
    (h : services.Keeps P) (b : Action σ α) (hs : P s) : P (b.runPlain services s).2 :=
  b.runPlain_keeps services h.write h.get h.invoke hs

namespace Container

variable {c : Container σ} {i : Instantiator σ} {d : Definition σ} {h : Handle}

theorem services_keep_has (hc : c.MadeBy i) (depth : Nat) (made : List (String × Handle)) :
    (c.services depth).Keeps (Session.Has made) := by
  have hr := regulates hc depth
  constructor
  case write  => exact fun s u hs => (Session.Leaves.write u).has hs
  case get    => exact fun typeName s hs => (hr.get typeName s).has hs
  case invoke => exact fun h caller method args s hs => (hr.invoke h caller method args s).has hs

theorem supply_of_has (hd : d ∈ c.registry.definitions) (hsc : d.scope = .singleton)
    (hs : s.Has made) (hm : (d.name, h) ∈ made) (depth : Nat) :
    (provider d.name).supply.runPlain (c.services (depth + 1)) s = (.ok h.toValue, s) := by
  have hl : shared? d s = some h := shared?_eq_some.mpr ⟨hsc, hs.cells _ hm⟩
  have hg : (c.services (depth + 1)).get d.name s = (.ok h, s) :=
    (getWhileAlive_of_alive hs.alive).trans (get_of_shared (Registry.resolve_name hd) hl)
  rw [provider, Behaviour.runPlain_get, hg]
  rfl

end Container
end Interpose
