import Interpose.Proofs.Component.Assembly
import Interpose.Proofs.Weaving.Coverage
import Interpose.Proofs.Weaving.Proxy

namespace Interpose

open Outcome

variable {σ : Type} {l : Layer σ} {providers : Providers σ} {r : Registry σ} {d : Definition σ}
variable {t : Proxies σ} {p : Proxy σ} {f : Field} {method : String} {advices : List (Advice σ)}

-- A layer over the types of a registry knows its components by their descriptions.
theorem Layer.get?_of_weave {config : WeavingConfig}
    (h : weave r.hierarchy advices config = .ok l) (hd : d ∈ r.definitions) :
    l.types.get? d.name = some d.type :=
  Layer.types_weave h ▸ Registry.get?_hierarchy hd

namespace Proxy

-- The chain for a field, if there is one.
def wireChain? (l : Layer σ) (providers : Providers σ) (j : FieldJoint) :
    Option (String × AutowireChain σ) :=
  (injectionChain l providers j).toOption.join

section Chain

variable {j : FieldJoint} {advisors : Advisors σ} {c : Option (String × AutowireChain σ)}

theorem injectionChain_of_none (ho : l.onField j = none) :
    injectionChain l providers j = .ok none := by
  rw [injectionChain, ho]

theorem injectionChain_of_some (ho : l.onField j = some advisors)
    (h : injectionChain l providers j = .ok c) :
    ∃ provider, fieldProvider providers j.field.fieldType = .ok provider ∧
      c = some (j.name, ⟨j, provider, advisors⟩) := by
  simp only [injectionChain, ho] at h
  have ⟨provider, hp, h⟩ := bind_eq_ok.mp h
  exact ⟨provider, hp, (pure_eq_ok.mp h).symm⟩

theorem fst_of_wireChain? {e : String × AutowireChain σ} (h : wireChain? l providers j = some e) :
    e.1 = j.name := by
  have hi := toOption_eq_some.mp (Option.join_eq_some_iff.mp h)
  cases ho : l.onField j
  case none => cases (injectionChain_of_none ho).symm.trans hi
  case some =>
    have ⟨_, _, he⟩ := injectionChain_of_some ho hi
    cases he
    rfl

end Chain

section Constructors

variable {j : MethodJoint} {c : MethodChain σ}

theorem newChain?_eq_some (h : newChain? l d j = some c) : ∃ advisors,
    l.onMethod j = some advisors ∧ c = ⟨j, l.types, .allocation d.allocator, advisors⟩ := by
  rw [newChain?] at h
  cases hk : j.method.kind <;> cases ho : l.onMethod j <;> simp [hk, ho] at h
  exact ⟨_, rfl, h.symm⟩

theorem initChain?_eq_some (h : initChain? l d j = some c) : ∃ init advisors,
    d.initializer = some init ∧ l.onMethod j = some advisors ∧
      c = ⟨j, l.types, .initialization init, advisors⟩ := by
  rw [initChain?] at h
  cases hk : j.method.kind <;> cases hi : d.initializer <;> cases ho : l.onMethod j <;>
    simp [hk, hi, ho] at h
  exact ⟨_, _, rfl, rfl, h.symm⟩

end Constructors

structure Synthesized (l : Layer σ) (providers : Providers σ) (d : Definition σ) (p : Proxy σ) :
    Prop where
  definition : p.definition = d
  passages   : p.passages = d.type.methodJoints.filterMap (passage? l d)
  newChain   : p.newChain = (d.type.methodJoints.filterMap (newChain? l d)).getLast?
  initChain  : p.initChain = (d.type.methodJoints.filterMap (initChain? l d)).getLast?
  wireChains : p.wireChains = d.type.fieldJoints.filterMap (wireChain? l providers)
  injects    : ∀ j ∈ d.type.fieldJoints, ∃ c, injectionChain l providers j = .ok c

theorem filterMap_of_mapM {α β ε : Type} {f : α → Except ε (Option β)} {as : List α}
    {bs : List (Option β)} (h : List.Forall₂ (fun a b => f a = .ok b) as bs) :
    bs.filterMap id = as.filterMap (fun a => (f a).toOption.join) ∧
      ∀ a ∈ as, ∃ b, f a = .ok b := by
  induction h
  case nil => exact ⟨rfl, nofun⟩
  case cons hb _ hi =>
    have ⟨hf, ha⟩ := hi
    refine ⟨?filtered, List.forall_mem_cons.mpr ⟨⟨_, hb⟩, ha⟩⟩
    rw [List.filterMap_cons, List.filterMap_cons, hf, hb]
    rfl

theorem synthesized (h : ofDefinition l providers d = .ok p)
    (ht : l.types.get? d.name = some d.type) : Synthesized l providers d p := by
  unfold ofDefinition at h
  simp only [ht] at h
  have ⟨chains, hc, h⟩ := bind_eq_ok.mp h
  have ⟨hf, hi⟩ := filterMap_of_mapM (mapM_eq_ok.mp hc)
  cases h
  constructor
  case definition => rfl
  case passages   => rfl
  case newChain   => rfl
  case initChain  => rfl
  case wireChains => exact hf
  case injects    => exact hi

namespace Synthesized

theorem name (h : Synthesized l providers d p) : p.name = d.name :=
  congrArg Definition.name h.definition

theorem lookup_passages_none (h : Synthesized l providers d p)
    (hm : ∀ m ∈ d.type.methods, m.name ≠ method) : p.passages.lookup method = none := by
  refine List.lookup_eq_none_iff.mpr fun e he => bne_iff_ne.mpr fun hn => ?_
  have ⟨j, hj, hp⟩ := List.mem_filterMap.mp (h.passages ▸ he)
  have ⟨m, hd, hjm⟩ := List.mem_map.mp hj
  exact hm m hd <| (congrArg MethodJoint.name hjm).trans <| (hn.trans (fst_of_passage? hp)).symm

theorem newChain_eq_some {c : MethodChain σ} (h : Synthesized l providers d p)
    (hc : p.newChain = some c) : ∃ j advisors, l.onMethod j = some advisors ∧
      c = ⟨j, l.types, .allocation d.allocator, advisors⟩ :=
  have ⟨j, _, hj⟩ := List.mem_filterMap.mp (List.mem_of_getLast? (h.newChain ▸ hc))
  ⟨j, newChain?_eq_some hj⟩

theorem initChain_eq_some {c : MethodChain σ} (h : Synthesized l providers d p)
    (hc : p.initChain = some c) : ∃ j init advisors, d.initializer = some init ∧
      l.onMethod j = some advisors ∧ c = ⟨j, l.types, .initialization init, advisors⟩ :=
  have ⟨j, _, hj⟩ := List.mem_filterMap.mp (List.mem_of_getLast? (h.initChain ▸ hc))
  ⟨j, initChain?_eq_some hj⟩

-- A proxy finds the chain of a field by the name of the field.
theorem injectionChain? (h : Synthesized l providers d p) (hd : d.Regular)
    (hf : f ∈ d.type.fields) :
    p.injectionChain? f.name = (wireChain? l providers ⟨d.type, f⟩).map (·.2) := by
  have hn := TypeDescription.nodup_name_fieldJoints hd.fields
  have hj : (⟨d.type, f⟩ : FieldJoint) ∈ d.type.fieldJoints := List.mem_map_of_mem hf
  rw [Proxy.injectionChain?, h.wireChains]
  exact Keyed.lookup_filterMap fst_of_wireChain? hn hj

end Synthesized
end Proxy

namespace Proxies

-- What is found in the table has been put together for the component.
theorem ofDefinition_of_get? (h : ofLayer l r providers = .ok t) (hd : d ∈ r.definitions)
    (hp : t.get? d.name = some p) : Proxy.ofDefinition l providers d = .ok p := by
  cases hl : l.hasProxy d.name
  case false =>
    have hn := get?_of_not_hasProxy h hl
    cases hp.symm.trans hn
  case true =>
    have ⟨q, hq, ho⟩ := get?_of_hasProxy h hd hl
    cases hp.symm.trans hq
    exact ho

-- Exactly the components that the layer has advices on are found in the table.
theorem isSome_get? (h : ofLayer l r providers = .ok t) (hd : d ∈ r.definitions) :
    (t.get? d.name).isSome = l.hasProxy d.name := by
  cases hl : l.hasProxy d.name
  case false => rw [get?_of_not_hasProxy h hl, Option.isSome_none]
  case true =>
    have ⟨p, hp, _⟩ := get?_of_hasProxy h hd hl
    rw [hp, Option.isSome_some]

end Proxies
end Interpose
