import Interpose.Proofs.Component.Registry

namespace Interpose.Definition

variable {σ : Type} {d d' : Definition σ} {e : ContainerError}

-- The definition with the scope that counts, if there is one.
def settled (d : Definition σ) : Definition σ := d.setScope (d.effectiveScope.toOption.getD d.scope)

-- What may be wrong with a definition by itself.
inductive Objection (d : Definition σ) : ContainerError → Prop
  | member (fault : ContractFault) : Objection d (.contractViolation d.name fault)
  | unknownScope (text : String) : Objection d (.unknownScope d.name text)
  | duplicateScope : Objection d (.duplicateScope d.name)

theorem methodFault?_eq_none {taken : List String} {ms : List Method}
    (hn : (ms.map (·.name)).Nodup) (ht : ∀ m ∈ ms, m.name ∉ taken)
    (hr : ∀ m ∈ ms, m.isConstructor = false →
      m.name ≠ allocationName ∧ m.name ≠ initializationName) : methodFault? taken ms = none := by
  induction ms generalizing taken
  case nil => rfl
  case cons m ms hi =>
    have ⟨hm, hn⟩ := List.nodup_cons.mp hn
    have ⟨hf, ht⟩ := List.forall_mem_cons.mp ht
    have ⟨hc, hr⟩ := List.forall_mem_cons.mp hr
    have hs : ∀ m' ∈ ms, m'.name ∉ m.name :: taken := by
      intro m' hm' h
      cases List.mem_cons.mp h
      case inl he => exact hm (List.mem_map.mpr ⟨m', hm', he⟩)
      case inr h  => exact ht m' hm' h
    cases hk : m.isConstructor
    case false => simp [methodFault?, hi hn hs hr, hf, hk, hc hk]
    case true  => simp [methodFault?, hi hn hs hr, hf, hk]

theorem fieldFault?_eq_none {taken : List String} {fs : List Field}
    (hn : (fs.map (·.name)).Nodup) (ht : ∀ f ∈ fs, f.name ∉ taken) :
    fieldFault? taken fs = none := by
  induction fs generalizing taken
  case nil => rfl
  case cons f fs hi =>
    have ⟨hm, hn⟩ := List.nodup_cons.mp hn
    have ⟨hf, ht⟩ := List.forall_mem_cons.mp ht
    have hs : ∀ f' ∈ fs, f'.name ∉ f.name :: taken := by
      intro f' hf' h
      cases List.mem_cons.mp h
      case inl he => exact hm (List.mem_map.mpr ⟨f', hf', he⟩)
      case inr h  => exact ht f' hf' h
    simp [fieldFault?, hi hn hs, hf]

section Scopes

theorem objection_of_effectiveScope (h : d.effectiveScope = .error e) : d.Objection e := by
  unfold effectiveScope at h
  split at h
  case h_1 => cases h
  case h_2 =>
    split at h
    case h_1 => cases h
    case h_2 => cases h; exact .unknownScope _
  case h_3 => cases h; exact .duplicateScope

-- Whether there is a scope that counts is up to the annotations.
theorem exists_effectiveScope {scope scope' : Scope}
    (h : (d.setScope scope).effectiveScope = .ok scope') :
    ∃ scope, d.effectiveScope = .ok scope := by
  cases hs : d.effectiveScope
  case ok scope => exact ⟨scope, rfl⟩
  case error e =>
    have ht : (d.setScope scope).type = d.type := rfl
    unfold effectiveScope at hs h
    rw [ht] at h
    split at hs
    case h_1    => cases hs
    case h_2 ha =>
      simp only [ha] at h
      split at hs <;> simp_all
    case h_3    => simp_all

theorem Regular.scope_eq {a : Annotation} (h : d.Regular)
    (ha : d.type.annotationsNamed scopeAnnotation = [a]) :
    Scope.parse? (a.value?.getD "") = some d.scope := by
  have hs := h.scope
  simp only [effectiveScope, ha] at hs
  split at hs
  case h_1 hp => cases hs; exact hp
  case h_2    => cases hs

theorem Regular.length_annotationsNamed (h : d.Regular) :
    (d.type.annotationsNamed scopeAnnotation).length ≤ 1 := by
  have hs := h.scope
  unfold effectiveScope at hs
  split at hs
  case h_1 ha => simp [ha]
  case h_2 ha => simp [ha]
  case h_3    => cases hs

end Scopes

theorem objection_of_validate (h : d.validate = .error e) : d.Objection e := by
  unfold validate at h
  split at h
  case h_1 => cases h; exact .member _
  case h_2 => cases h; exact .member _
  case h_3 =>
    cases hs : d.effectiveScope <;> simp only [hs, Except.map] at h <;> cases h
    exact objection_of_effectiveScope hs

theorem eq_settled (h : d.validate = .ok d') : d' = d.settled := by
  unfold validate at h
  split at h
  case h_1 => cases h
  case h_2 => cases h
  case h_3 =>
    cases hs : d.effectiveScope <;> simp only [hs, Except.map] at h <;> cases h
    simp [settled, hs, Except.toOption]

theorem validate_iff : d.validate = .ok d.settled ↔ d.settled.Regular := by
  constructor
  case mp  => exact fun h => (validate_eq_ok h).right
  case mpr =>
    intro h
    have hm : methodFault? [] d.type.methods = none :=
      methodFault?_eq_none h.methods nofun h.reserved
    have hf : fieldFault? [] d.type.fields = none :=
      fieldFault?_eq_none h.fields nofun
    have ⟨scope, hs⟩ := exists_effectiveScope h.scope
    simp [validate, settled, hm, hf, hs, Except.map, Except.toOption]

end Interpose.Definition
