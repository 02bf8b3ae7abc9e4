import Interpose.Proofs.Weaving.Coverage
import Interpose.Proofs.Weaving.Unadvised

namespace Interpose

open Outcome

variable {σ : Type} {advices : List (Advice σ)} {config : WeavingConfig} {l : Layer σ}
variable {providers : Providers σ} {r : Registry σ} {d : Definition σ} {t : Proxies σ} {p : Proxy σ}

-- A type declares the method, and after it no method of the same kind that has advices.
def Layer.Last (l : Layer σ) (t : TypeDescription) (m : Method) : Prop :=
  ∃ front back, t.methods = front ++ m :: back ∧
    ∀ m' ∈ back, m'.kind = m.kind → l.onMethod ⟨t, m'⟩ = none

namespace Proxy

section Last

variable {α β : Type} {f : α → Option β} {as : List α} {a : α} {b : β}

theorem isSome_last : ((as.filterMap f).getLast?).isSome = true ↔ ∃ a ∈ as, (f a).isSome := by
  rw [List.getLast?_isSome, ne_eq, List.filterMap_eq_nil_iff]
  simp [Option.isSome_iff_ne_none]

theorem getLast?_filterMap {front back : List α} (hb : f a = some b)
    (hn : ∀ a' ∈ back, f a' = none) : ((front ++ a :: back).filterMap f).getLast? = some b := by
  have he : back.filterMap f = [] := List.filterMap_eq_nil_iff.mpr hn
  rw [List.filterMap_append, List.filterMap_cons_some hb, he, List.getLast?_concat]

end Last

variable {j : MethodJoint} {m : Method} {advisors : Advisors σ}

theorem isSome_newChain? : (newChain? l d j).isSome = true ↔
    j.method.kind = .allocation ∧ (l.onMethod j).isSome := by
  rw [newChain?]
  cases j.method.kind <;> cases l.onMethod j <;> simp

theorem isSome_initChain? : (initChain? l d j).isSome = true ↔
    j.method.kind = .initialization ∧ (l.onMethod j).isSome ∧ d.initializer.isSome := by
  rw [initChain?]
  cases j.method.kind <;> cases l.onMethod j <;> cases d.initializer <;> simp

-- The last join point of a kind that has advices is the last one that there is a chain for.
theorem getLast?_of_last {β : Type} {chain? : MethodJoint → Option β} {c : β}
    (hm : l.Last d.type m) (hc : chain? ⟨d.type, m⟩ = some c)
    (ha : ∀ j, (chain? j).isSome → j.method.kind = m.kind ∧ (l.onMethod j).isSome) :
    (d.type.methodJoints.filterMap chain?).getLast? = some c := by
  have ⟨front, back, hs, hb⟩ := hm
  have hn : ∀ m' ∈ back, chain? ⟨d.type, m'⟩ = none := by
    intro m' hm'
    by_contra hne
    have ⟨hk, ho⟩ := ha _ (Option.isSome_iff_ne_none.mpr hne)
    rw [hb m' hm' hk] at ho
    cases ho
  rw [TypeDescription.methodJoints, hs, List.map_append, List.map_cons]
  exact getLast?_filterMap hc (List.forall_mem_map.mpr hn)

namespace Synthesized

variable (h : Synthesized l providers d p)
include h

theorem weavesAllocation_iff : p.weavesAllocation = true ↔
    ∃ j ∈ d.type.methodJoints, j.method.kind = .allocation ∧ (l.onMethod j).isSome := by
  rw [weavesAllocation, h.newChain, isSome_last]
  simp only [isSome_newChain?]

theorem weavesInitialization_iff : p.weavesInitialization = true ↔
    (∃ j ∈ d.type.methodJoints, j.method.kind = .initialization ∧ (l.onMethod j).isSome) ∧
      d.initializer.isSome := by
  rw [weavesInitialization, h.initChain, isSome_last]
  simp only [isSome_initChain?, ← and_assoc, exists_and_right]

theorem weavesFields_iff : p.weavesFields = true ↔
    ∃ j ∈ d.type.fieldJoints, (l.onField j).isSome := by
  have hw : ∀ j ∈ d.type.fieldJoints,
      (wireChain? l providers j).isSome = (l.onField j).isSome := by
    intro j hj
    have ⟨c, hc⟩ := h.injects j hj
    cases ho : l.onField j
    case none => rw [wireChain?, injectionChain_of_none ho]; rfl
    case some =>
      have ⟨provider, _, he⟩ := injectionChain_of_some ho hc
      rw [wireChain?, hc, he]
      rfl
  rw [weavesFields, h.wireChains]
  simp only [Bool.not_eq_true', List.isEmpty_eq_false_iff, ne_eq, List.filterMap_eq_nil_iff]
  simp only [not_forall, ← ne_eq, ← Option.isSome_iff_ne_none, exists_prop]
  exact exists_congr fun j => and_congr_right fun hj => by rw [hw j hj]

theorem newChain_of_last (hm : l.Last d.type m) (hk : m.kind = .allocation)
    (ho : l.onMethod ⟨d.type, m⟩ = some advisors) :
    p.newChain = some ⟨⟨d.type, m⟩, l.types, .allocation d.allocator, advisors⟩ := by
  rw [h.newChain]
  apply getLast?_of_last hm
  case hc => rw [newChain?, hk, ho]; rfl
  case ha => exact fun j hs => hk ▸ isSome_newChain?.mp hs

theorem initChain_of_last {init : InitializationCode σ} (hm : l.Last d.type m)
    (hk : m.kind = .initialization) (ho : l.onMethod ⟨d.type, m⟩ = some advisors)
    (hi : d.initializer = some init) :
    p.initChain = some ⟨⟨d.type, m⟩, l.types, .initialization init, advisors⟩ := by
  rw [h.initChain]
  apply getLast?_of_last hm
  case hc => rw [initChain?, hk, ho, hi]; rfl
  case ha => exact fun j hs => hk ▸ (isSome_initChain?.mp hs).imp_right And.left

end Synthesized
end Proxy

-- The advices at a method are some only if there are advisors.
theorem Layer.exists_advisors {j : MethodJoint} {a : Advice σ} (h : a ∈ l.advisorsAt j) :
    ∃ advisors, l.onMethod j = some advisors ∧ a ∈ advisors.advisors := by
  rw [advisorsAt] at h
  cases ho : l.onMethod j
  case none          => rw [ho] at h; cases h
  case some advisors => rw [ho] at h; exact ⟨advisors, rfl, h⟩

namespace Proxies

-- The layer and the proxies agree on which components have proxies and on what is woven of them,
-- and no advice of a constructor gets lost; except that a proxy does without the advices of an
-- initialization that has no code, and of several allocations or initializations of one component
-- has the advices of the last one only.
theorem agrees (hr : r.Assembled) (hw : Layer.weave r.hierarchy advices config = .ok l)
    (ht : ofLayer l r providers = .ok t) (hd : d ∈ r.definitions) :
    (l.hasProxy d.name = (t.get? d.name).isSome) ∧
    ∀ p, t.get? d.name = some p →
      l.weavesAllocation d.name = p.weavesAllocation ∧
      (l.weavesInitialization d.name && d.initializer.isSome) = p.weavesInitialization ∧
      l.weavesFields d.name = p.weavesFields ∧
      (∀ m, m.kind = .allocation → l.Last d.type m →
        ∀ a ∈ l.advisorsAt ⟨d.type, m⟩, ∃ c : MethodChain σ, a ∈ c.advisors.advisors ∧
          ∀ services w, p.allocate services w = c.invoke services ⟨none, none, [w.toValue]⟩) ∧
      (∀ m, m.kind = .initialization → l.Last d.type m → d.initializer.isSome →
        ∀ a ∈ l.advisorsAt ⟨d.type, m⟩, ∃ c : MethodChain σ, a ∈ c.advisors.advisors ∧
          ∀ services target, p.prepare services target =
            discard (c.invoke services ⟨none, some target, []⟩)) := by
  have htells := Layer.tells_of_weave hw
  have hreg := hr.regular
  refine ⟨(isSome_get? ht hd).symm, fun p hp => ?_⟩
  have hs := Proxy.synthesized (ofDefinition_of_get? ht hd hp) (Layer.get?_of_weave hw hd)
  refine ⟨?allocation, ?initialization, ?fields, ?allocating, ?initializing⟩
  case allocation =>
    rw [Bool.eq_iff_iff, htells.allocation, hs.weavesAllocation_iff]
    exact htells.methods_iff hreg hd .allocation
  case initialization =>
    rw [Bool.eq_iff_iff, Bool.and_eq_true, htells.initialization, hs.weavesInitialization_iff]
    exact and_congr_left fun _ => htells.methods_iff hreg hd .initialization
  case fields =>
    rw [Bool.eq_iff_iff, htells.wiring, hs.weavesFields_iff]
    exact htells.fields_iff hreg hd
  case allocating =>
    intro m hk hm a hmem
    have ⟨advisors, ho, hmem⟩ := Layer.exists_advisors hmem
    have hc := hs.newChain_of_last hm hk ho
    refine ⟨⟨⟨d.type, m⟩, l.types, .allocation d.allocator, advisors⟩, hmem, fun services w => ?_⟩
    rw [Proxy.allocate, hc]
  case initializing =>
    intro m hk hm hi a hmem
    have ⟨advisors, ho, hmem⟩ := Layer.exists_advisors hmem
    have ⟨init, hi⟩ := Option.isSome_iff_exists.mp hi
    have hc := hs.initChain_of_last hm hk ho hi
    refine ⟨⟨⟨d.type, m⟩, l.types, .initialization init, advisors⟩, hmem, fun services v => ?_⟩
    rw [Proxy.prepare, hc]

end Proxies

-- A safe that is closed once it is there, with advices on both steps.
def safe : Definition Unit :=
  (Definition.make (.plain "shop.Safe") fun _ => return .unit).setInit .unit fun _ => return ()

def safes : Registry Unit := ⟨[safe], by decide +kernel⟩

theorem safes_assembled : safes.Assembled :=
  have hs : Registry.empty.register safe = .ok safes := rfl
  .register _ _ _ .empty (.init _ _ _ <| .make _ _) hs

def safeLayer : Layer Unit :=
  .cover safes.hierarchy [watch allocationName, watch initializationName]

theorem safeLayer_allocation : safeLayer.Last safe.type (.allocation safe.name) := by
  refine ⟨[], [.initialization], rfl, fun m hm hk => ?_⟩
  cases List.mem_singleton.mp hm
  cases hk

theorem safeLayer_initialization : safeLayer.Last safe.type .initialization :=
  ⟨[.allocation safe.name], [], rfl, nofun⟩

namespace Proxies

-- Both steps have an advice around them.
theorem agrees_safe : ∃ t p, ofLayer safeLayer safes noProviders = .ok t ∧
    t.get? safe.name = some p ∧ p.weavesAllocation = true ∧ p.weavesInitialization = true ∧
    (∀ a ∈ safeLayer.advisorsAt ⟨safe.type, .allocation safe.name⟩, ∃ c : MethodChain Unit,
      a ∈ c.advisors.advisors ∧ ∀ services w,
        p.allocate services w = c.invoke services ⟨none, none, [w.toValue]⟩) ∧
    (∀ a ∈ safeLayer.advisorsAt ⟨safe.type, .initialization⟩, ∃ c : MethodChain Unit,
      a ∈ c.advisors.advisors ∧ ∀ services target,
        p.prepare services target = discard (c.invoke services ⟨none, some target, []⟩)) := by
  have hc : ((ofLayer safeLayer safes noProviders).toOption.bind (·.get? safe.name)).isSome := by
    decide +kernel
  have ⟨p, hp⟩ := Option.isSome_iff_exists.mp hc
  have ⟨t, ht, hp⟩ := Option.bind_eq_some_iff.mp hp
  have ht := toOption_eq_some.mp ht
  have hd : safe ∈ safes.definitions := List.mem_cons_self
  have hw : Layer.weave safes.hierarchy [watch allocationName, watch initializationName] .default =
      .ok safeLayer := rfl
  have ⟨_, hagrees⟩ := agrees safes_assembled hw ht hd
  have ⟨halloc, hinit, _, hallocate, hprepare⟩ := hagrees p hp
  refine ⟨t, p, ht, hp, ?_, ?_, ?_, ?_⟩
  · rw [← halloc]
    decide +kernel
  · rw [← hinit]
    decide +kernel
  · exact hallocate _ rfl safeLayer_allocation
  · exact hprepare _ rfl safeLayer_initialization rfl

end Proxies

-- A kit that declares a second allocation.
def kit : Definition Unit :=
  (Definition.make (.plain "shop.Kit") fun _ => return .unit).describeMethod
    { Method.allocation "shop.Kit" with name := "build" }

def kits : Registry Unit := ⟨[drawer, kit], by decide +kernel⟩

def kitAdvices : List (Advice Unit) :=
  [watch initializationName, watch allocationName, watch "build"]

def kitLayer : Layer Unit := .cover kits.hierarchy kitAdvices

theorem kits_assembled : kits.Assembled := by
  have hk : kit.Assembled := .method _ _ <| .make _ _
  have hkr : drawers.register kit = .ok kits := rfl
  exact .register _ _ _ drawers_assembled hk hkr

namespace Proxies

-- The layer says that the drawer is initialized through advices, but its proxy does not; and an
-- advice of the first allocation of the kit is not around the allocation that is made.
theorem kits_disagree : kits.Assembled ∧
    Layer.weave kits.hierarchy kitAdvices .default = .ok kitLayer ∧
    ∃ t p q, ofLayer kitLayer kits noProviders = .ok t ∧
      t.get? drawer.name = some p ∧ kitLayer.weavesInitialization drawer.name = true ∧
      p.weavesInitialization = false ∧
      t.get? kit.name = some q ∧ ∃ a ∈ kitLayer.advisorsAt ⟨kit.type, .allocation kit.name⟩,
        ∃ c, q.newChain = some c ∧ a ∉ c.advisors.advisors := by
  have hc : (ofLayer kitLayer kits noProviders).toOption.any fun t =>
      (t.get? drawer.name).any (fun p => p.weavesInitialization == false) &&
      (t.get? kit.name).any fun q => q.newChain.any fun c =>
        (kitLayer.advisorsAt ⟨kit.type, .allocation kit.name⟩).any fun a =>
          c.advisors.advisors.all (·.pointcut != a.pointcut) := by
    decide +kernel
  simp only [Option.any_eq_true, Bool.and_eq_true, List.any_eq_true, beq_iff_eq] at hc
  have ⟨t, ht, ⟨p, hp, hi⟩, q, hq, c, hn, a, ha, hall⟩ := hc
  have ht := toOption_eq_some.mp ht
  refine ⟨kits_assembled, rfl, t, p, q, ht, hp, ?woven, hi, hq, a, ha, c, hn, ?lost⟩
  case woven => decide +kernel
  case lost =>
    intro hm
    have := List.all_eq_true.mp hall a hm
    simp at this

end Proxies
end Interpose
