import Interpose.Proofs.Component.Registration
import Interpose.Proofs.Table
import Interpose.Proofs.Weaving.Build

namespace Interpose

open Outcome

variable {σ : Type}

theorem Registry.exists_register_iff {r : Registry σ} {d : Definition σ} :
    (∃ r', r.register d = .ok r') ↔ d.settled.Regular ∧ d.name ∉ r.names := by
  rw [← Registry.enter_eq_ok_iff, Registry.enter]
  cases r.register d <;> simp

namespace Catalog

variable {c : Catalog σ} {aspect name method : String} {advices : List (String × AdviceBody σ)}

theorem body?_insert (c : Catalog σ) (aspect name method : String)
    (advices : List (String × AdviceBody σ)) : (c.insert aspect advices).body? name method =
      if name = aspect then
        (setEntries ((c.aspects.lookup aspect).getD []) advices).lookup method
      else c.body? name method := by
  rw [body?, insert, lookup_setEntry]
  split
  case isTrue  => rfl
  case isFalse => rfl

theorem isSome_body?_insert_self (h : method ∈ advices.map (·.1)) :
    ((c.insert aspect advices).body? aspect method).isSome := by
  rw [body?_insert, if_pos rfl, isSome_lookup, mem_keys_setEntries]
  exact .inl h

-- No code is lost when more comes in.
theorem isSome_body?_insert (h : (c.body? name method).isSome) :
    ((c.insert aspect advices).body? name method).isSome := by
  rw [body?_insert]
  split
  case isFalse    => exact h
  case isTrue hn  =>
    rw [body?, hn] at h
    rw [isSome_lookup, mem_keys_setEntries]
    cases hl : c.aspects.lookup aspect <;> rw [hl] at h
    case none => cases h
    case some => exact .inr (isSome_lookup.mp h)

end Catalog

namespace Blueprint

-- What a blueprint can become when more comes in.
inductive Grows (b : Blueprint σ) : Blueprint σ → Prop
  | refl : Grows b b
  | config {b' : Blueprint σ} (config : WeavingConfig) : Grows b b' → Grows b (b'.withConfig config)
  | component {b' b'' : Blueprint σ} {d : Definition σ} : Grows b b' → b'.component d = .ok b'' →
    Grows b b''
  | aspect {b' b'' : Blueprint σ} {a : Aspect σ} : Grows b b' → b'.aspect a = .ok b'' → Grows b b''

variable {b b' : Blueprint σ} {d : Definition σ} {a : Aspect σ} {name method : String}

theorem mem_of_register {r r' : Registry σ} {d' : Definition σ} (h : r.register d = .ok r')
    (hd : d' ∈ r.definitions) : d' ∈ r'.definitions := by
  obtain ⟨_, _, hs⟩ := Registry.register_eq_ok h
  exact hs ▸ List.mem_append_left _ hd

theorem mem_of_component (h : b.component d = .ok b') {d' : Definition σ}
    (hd : d' ∈ b.registry.definitions) : d' ∈ b'.registry.definitions := by
  obtain ⟨r, hr, rfl⟩ := component_eq_ok h
  exact mem_of_register hr hd

theorem Grows.mem_definitions (h : b.Grows b') (hd : d ∈ b.registry.definitions) :
    d ∈ b'.registry.definitions := by
  induction h
  case refl            => exact hd
  case config hi       => exact hi
  case component hc hi => exact mem_of_component hc hi
  case aspect ha hi    =>
    obtain ⟨b₁, hc, rfl⟩ := aspect_eq_ok ha
    exact mem_of_component hc hi

theorem Grows.isSome_body? (h : b.Grows b') (hb : (b.catalog.body? name method).isSome) :
    (b'.catalog.body? name method).isSome := by
  induction h
  case refl            => exact hb
  case config hi       => exact hi
  case component hc hi =>
    obtain ⟨r, _, rfl⟩ := component_eq_ok hc
    exact hi
  case aspect ha hi    =>
    obtain ⟨b₁, hc, rfl⟩ := aspect_eq_ok ha
    obtain ⟨r, _, rfl⟩ := component_eq_ok hc
    exact Catalog.isSome_body?_insert hi

-- An aspect that is taken in is there with its code, and its component keeps to the rules.
structure Took (b : Blueprint σ) (a : Aspect σ) : Prop where
  defined : a.component.settled ∈ b.registry.definitions
  regular : a.component.settled.Regular
  coded   : ∀ name ∈ a.advices.map (·.1), (b.catalog.body? a.name name).isSome

theorem took_of_aspect (h : b.aspect a = .ok b') : b'.Took a := by
  obtain ⟨b₁, hc, rfl⟩ := aspect_eq_ok h
  obtain ⟨r, hr, rfl⟩ := component_eq_ok hc
  obtain ⟨d, hv, hs⟩ := Registry.register_eq_ok hr
  refine ⟨?_, (Registry.exists_register_iff.mp ⟨r, hr⟩).left, ?_⟩
  · exact hs ▸ List.mem_append_right _ (Definition.eq_settled hv ▸ List.mem_singleton_self d)
  · exact fun name hn => Catalog.isSome_body?_insert_self hn

-- Whatever comes in later, it stays.
theorem Took.grows (h : b.Took a) (hg : b.Grows b') : b'.Took a where
  defined := hg.mem_definitions h.defined
  regular := h.regular
  coded   := fun name hn => hg.isSome_body? (h.coded name hn)

end Blueprint
end Interpose
