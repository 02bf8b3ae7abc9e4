import Interpose.Component.Registry
import Interpose.Joint
import Interpose.Proofs.Keyed
import Interpose.Proofs.Outcome

namespace Interpose

open Outcome

namespace Definition

variable {σ : Type} {d d' : Definition σ}

-- The rules that a registered component keeps to.
structure Regular (d : Definition σ) : Prop where
  methods  : (d.type.methods.map (·.name)).Nodup
  fields   : (d.type.fields.map (·.name)).Nodup
  reserved : ∀ m ∈ d.type.methods, m.isConstructor = false →
    m.name ≠ allocationName ∧ m.name ≠ initializationName
  scope    : d.effectiveScope = .ok d.scope

theorem nodup_of_methodFault? {taken : List String} {ms : List Method}
    (h : methodFault? taken ms = none) :
    (ms.map (·.name)).Nodup ∧ (∀ m ∈ ms, m.name ∉ taken) ∧
      ∀ m ∈ ms, m.isConstructor = false → m.name ≠ allocationName ∧ m.name ≠ initializationName := by
  induction ms generalizing taken
  case nil => simp
  case cons m ms hi =>
    rw [methodFault?] at h
    split at h
    case isTrue => cases h
    case isFalse ht =>
      split at h
      case isTrue => cases h
      case isFalse hr =>
        have ⟨hn, hd, hm⟩ := hi h
        refine ⟨?distinct, ?fresh, ?reserved⟩
        case distinct =>
          refine List.nodup_cons.mpr ⟨?_, hn⟩
          intro hc
          obtain ⟨m', hm', he⟩ := List.mem_map.mp hc
          exact hd m' hm' (he ▸ List.mem_cons_self)
        case fresh =>
          simp only [List.contains_eq_mem, decide_eq_true_eq] at ht
          refine List.forall_mem_cons.mpr ⟨ht, fun m' hm' => ?_⟩
          exact fun hc => hd m' hm' (List.mem_cons_of_mem _ hc)
        case reserved =>
          refine List.forall_mem_cons.mpr ⟨fun hc => ?_, hm⟩
          simpa [hc] using hr

theorem nodup_of_fieldFault? {taken : List String} {fs : List Field}
    (h : fieldFault? taken fs = none) :
    (fs.map (·.name)).Nodup ∧ ∀ f ∈ fs, f.name ∉ taken := by
  induction fs generalizing taken
  case nil => simp
  case cons f fs hi =>
    rw [fieldFault?] at h
    split at h
    case isTrue => cases h
    case isFalse ht =>
      have ⟨hn, hd⟩ := hi h
      simp only [List.contains_eq_mem, decide_eq_true_eq] at ht
      constructor
      case left =>
        refine List.nodup_cons.mpr ⟨?_, hn⟩
        intro hc
        obtain ⟨f', hf', he⟩ := List.mem_map.mp hc
        exact hd f' hf' (he ▸ List.mem_cons_self)
      case right =>
        refine List.forall_mem_cons.mpr ⟨ht, fun f' hf' => ?_⟩
        exact fun hc => hd f' hf' (List.mem_cons_of_mem _ hc)

-- An annotation has the last word on the scope, so setting the scope to what counts is final.
theorem effectiveScope_setScope {scope : Scope} (h : d.effectiveScope = .ok scope) :
    (d.setScope scope).effectiveScope = .ok scope := by
  have ht : (d.setScope scope).type = d.type := rfl
  unfold effectiveScope at h ⊢
  rw [ht]
  split
  case h_1 => rfl
  case h_2 a ha =>
    simp only [ha] at h
    split at h
    case h_1 => cases h; rfl
    case h_2 => cases h
  case h_3 hn hs =>
    split at h
    case h_1 he => exact (hn he).elim
    case h_2 he => exact (hs _ he).elim
    case h_3    => cases h

theorem validate_eq_ok (h : d.validate = .ok d') : d'.type = d.type ∧ d'.Regular := by
  unfold validate at h
  split at h
  case h_1 => cases h
  case h_2 => cases h
  case h_3 hm hf =>
    cases hs : d.effectiveScope <;> simp only [hs, Except.map] at h <;> cases h
    have ⟨hn, _, hr⟩ := nodup_of_methodFault? hm
    exact ⟨rfl, hn, (nodup_of_fieldFault? hf).left, hr, effectiveScope_setScope hs⟩

end Definition

namespace Hierarchy

theorem types_foldl_insert {s : Hierarchy} {ts : List TypeDescription}
    (h : ((s.types ++ ts).map (·.name)).Nodup) : (ts.foldl insert s).types = s.types ++ ts := by
  induction ts generalizing s
  case nil => simp
  case cons t ts hi =>
    have hc : s.contains t.name = false := by
      simp only [List.map_append, List.map_cons, List.nodup_append, List.mem_cons] at h
      have := h.right.right
      simp only [contains, names, List.contains_eq_mem, decide_eq_false_iff_not]
      exact fun hm => this t.name hm t.name (.inl rfl) rfl
    have ht : (s.insert t).types = s.types ++ [t] := by simp [insert, hc]
    rw [List.foldl_cons, hi (by simpa [ht] using h), ht]
    simp

theorem types_ofList {ts : List TypeDescription} (h : (ts.map (·.name)).Nodup) :
    (ofList ts).types = ts :=
  types_foldl_insert (s := empty) h

theorem get?_eq_some {s : Hierarchy} {t : TypeDescription} (ht : t ∈ s.types) :
    s.get? t.name = some t :=
  Keyed.find?_eq_some s.nodup ht

end Hierarchy

namespace Registry

variable {σ : Type} {r r' : Registry σ} {d : Definition σ}

theorem get?_eq_some (hd : d ∈ r.definitions) : r.get? d.name = some d :=
  Keyed.find?_eq_some r.nodup hd

theorem types_hierarchy (r : Registry σ) : r.hierarchy.types = r.definitions.map (·.type) := by
  refine Hierarchy.types_ofList ?_
  rw [List.map_map]
  exact r.nodup

theorem get?_hierarchy (hd : d ∈ r.definitions) : r.hierarchy.get? d.name = some d.type := by
  refine Hierarchy.get?_eq_some (t := d.type) ?_
  rw [types_hierarchy]
  exact List.mem_map_of_mem hd

def Regular (r : Registry σ) : Prop :=
  ∀ d ∈ r.definitions, d.Regular

theorem empty_regular : (empty : Registry σ).Regular :=
  nofun

theorem register_eq_ok (h : r.register d = .ok r') :
    ∃ d', d.validate = .ok d' ∧ r'.definitions = r.definitions ++ [d'] := by
  obtain ⟨d', hd, h⟩ := bind_eq_ok.mp h
  split at h
  case isTrue  => cases h; exact ⟨d', hd, rfl⟩
  case isFalse => cases h

theorem Regular.register (hr : r.Regular) (h : r.register d = .ok r') : r'.Regular := by
  obtain ⟨d', hd, he⟩ := register_eq_ok h
  intro e hm
  rw [he, List.mem_append, List.mem_singleton] at hm
  cases hm
  case inl hm => exact hr e hm
  case inr hm => exact hm ▸ (Definition.validate_eq_ok hd).right

theorem Regular.methods (hr : r.Regular) {t : TypeDescription} (ht : t ∈ r.hierarchy.types) :
    (t.methods.map (·.name)).Nodup := by
  rw [types_hierarchy] at ht
  obtain ⟨d, hd, rfl⟩ := List.mem_map.mp ht
  exact (hr d hd).methods

theorem mem_methodJoints_hierarchy {m : Method} (hd : d ∈ r.definitions)
    (hm : m ∈ d.type.methods) : ⟨d.type, m⟩ ∈ r.hierarchy.types.flatMap (·.methodJoints) := by
  rw [types_hierarchy]
  exact List.mem_flatMap.mpr ⟨d.type, List.mem_map_of_mem hd, List.mem_map_of_mem hm⟩

variable {types : Hierarchy} {typeName : String}

-- A component stands for the type of its own name before any other.
theorem resolve_name (hd : d ∈ r.definitions) : r.resolve types d.name = .ok d := by
  rw [resolve, get?_eq_some hd]

theorem mem_of_resolve (h : r.resolve types typeName = .ok d) : d ∈ r.definitions := by
  have hg : ∀ {n e}, r.get? n = some e → e ∈ r.definitions := List.mem_of_find?_eq_some
  rw [resolve] at h
  split at h
  case h_1 he => exact Except.ok.inj h ▸ hg he
  case h_2 =>
    split at h
    case h_1 => cases h
    case h_3 => cases h
    case h_2 he =>
      cases h
      obtain ⟨t, _, ht⟩ := List.mem_filterMap.mp (he ▸ List.mem_singleton_self d)
      exact hg ht

end Registry
end Interpose
