import Interpose.Proofs.Component.Registry

namespace Interpose

open Outcome

variable {σ : Type}

namespace Definition

-- The definitions that can be put together.
inductive Assembled : Definition σ → Prop
  | make (type : TypeDescription) (allocator : AllocationCode σ) : Assembled (make type allocator)
  | scope (d : Definition σ) (scope : Scope) : Assembled d → Assembled (d.setScope scope)
  | lazy (d : Definition σ) (lazy : Bool) : Assembled d → Assembled (d.setLazy lazy)
  | annotation (d : Definition σ) (a : Annotation) : Assembled d → Assembled (d.annotate a)
  | field (d : Definition σ) (f : Field) : Assembled d → Assembled (d.addField f)
  | method (d : Definition σ) (m : Method) : Assembled d → Assembled (d.describeMethod m)
  | body (d : Definition σ) (m : Method) (body : MethodCode σ) : Assembled d →
    Assembled (d.addBody m body)
  | init {α : Type} (d : Definition σ) (k : Kind α) (init : α → Action σ Unit) : Assembled d →
    Assembled (d.setInit k init)

variable {d d' : Definition σ} {e : String × MethodCode σ} {method : String}
variable {body : MethodCode σ}

-- The initialization is described along with its code, and no other code is touched.
theorem bodies_setInit {α : Type} (d : Definition σ) (k : Kind α) (init : α → Action σ Unit) :
    (d.setInit k init).bodies = d.bodies := by
  simp only [setInit]
  split <;> rfl

theorem methods_subset_setInit {α : Type} (d : Definition σ) (k : Kind α)
    (init : α → Action σ Unit) : d.type.methods ⊆ (d.setInit k init).type.methods := by
  simp only [setInit]
  split
  case isTrue  => exact List.Subset.refl _
  case isFalse => exact List.subset_append_left ..

namespace Assembled

-- There is no code without a description of its method.
theorem described (h : d.Assembled) (he : e ∈ d.bodies) : ∃ m ∈ d.type.methods, m.name = e.1 := by
  induction h
  case make                 => cases he
  case scope hi             => exact hi he
  case lazy hi              => exact hi he
  case annotation hi        => exact hi he
  case field hi             => exact hi he
  case method d m _ hi      =>
    have ⟨m', hm, hn⟩ := hi he
    exact ⟨m', List.mem_append_left _ hm, hn⟩
  case body d m body _ hi   =>
    cases he
    case head    => exact ⟨m, List.mem_append_right _ (List.mem_singleton_self m), rfl⟩
    case tail he =>
      have ⟨m', hm, hn⟩ := hi he
      exact ⟨m', List.mem_append_left _ hm, hn⟩
  case init d k init _ hi   =>
    have ⟨m, hm, hn⟩ := hi (bodies_setInit d k init ▸ he)
    exact ⟨m, methods_subset_setInit d k init hm, hn⟩

theorem described_of_body? (h : d.Assembled) (hb : d.body? method = some body) :
    ∃ m ∈ d.type.methods, m.name = method := by
  have ⟨front, back, hs, _⟩ := List.lookup_eq_some_iff.mp hb
  have he : (method, body) ∈ d.bodies := hs ▸ List.mem_append_right front List.mem_cons_self
  exact h.described he

theorem body?_eq_none (h : d.Assembled) (hm : ∀ m ∈ d.type.methods, m.name ≠ method) :
    d.body? method = none := by
  by_contra hb
  have ⟨_, hb⟩ := Option.ne_none_iff_exists'.mp hb
  have ⟨m, hd, hn⟩ := h.described_of_body? hb
  exact hm m hd hn

-- What is registered has only its scope settled.
theorem validate (h : d.Assembled) (hv : d.validate = .ok d') : d'.Assembled := by
  unfold Definition.validate at hv
  split at hv
  case h_1 => cases hv
  case h_2 => cases hv
  case h_3 =>
    cases hs : d.effectiveScope <;> simp only [hs, Except.map] at hv <;> cases hv
    exact .scope d _ h

end Assembled
end Definition

namespace Registry

-- The registries that come from registering definitions.
inductive Assembled : Registry σ → Prop
  | empty : Assembled empty
  | register (r : Registry σ) (d : Definition σ) (r' : Registry σ) : Assembled r → d.Assembled →
    r.register d = .ok r' → Assembled r'

variable {r : Registry σ} {d : Definition σ}

namespace Assembled

theorem regular (h : r.Assembled) : r.Regular := by
  induction h
  case empty            => exact empty_regular
  case register hr hi   => exact hi.register hr

theorem definitions (h : r.Assembled) (hd : d ∈ r.definitions) : d.Assembled := by
  induction h
  case empty => cases hd
  case register ha hr hi =>
    have ⟨d', hv, he⟩ := register_eq_ok hr
    rw [he, List.mem_append, List.mem_singleton] at hd
    cases hd
    case inl hd => exact hi hd
    case inr hd => exact hd ▸ ha.validate hv

end Assembled
end Registry
end Interpose
