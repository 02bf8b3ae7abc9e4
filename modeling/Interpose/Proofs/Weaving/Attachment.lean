import Interpose.Proofs.Metadata.Modifiers
import Interpose.Proofs.Weaving.Unadvised

namespace Interpose

-- A pointcut that may select a method speaks of executions.
theorem Pointcut.isExecution_of_maySelectMethod {types : Hierarchy} {j : MethodJoint} {p : Pointcut}
    (h : p.maySelectMethod types j = true) : p.isExecution = true := by
  rw [maySelectMethod, Bool.and_eq_true] at h
  exact h.left

namespace AdvisorTable

variable {κ σ : Type} {key : κ → String × String} {joints : List κ} {j j' : κ}
variable {t : AdvisorTable κ σ}

-- Join points are told apart by their keys alone.
theorem find?_congr (h : key j = key j') : find? key j t = find? key j' t := by
  rw [find?, find?, h]

theorem find?_eq_none (ht : ∀ e ∈ t, e.1 ∈ joints) (hj : ∀ k ∈ joints, key k ≠ key j) :
    find? key j t = none := by
  by_contra ho
  have ⟨e, he, hk⟩ := exists_of_find? ho
  exact hj e.1 (ht e he) hk

end AdvisorTable

namespace Layer

variable {σ : Type} {types : Hierarchy} {advices : List (Advice σ)} {config : WeavingConfig}
variable {l : Layer σ} {j : MethodJoint} {f : FieldJoint}

-- What there is at a join point where these advices apply.
def ranking (advices : List (Advice σ)) : Option (List (Advice σ)) :=
  if advices = [] then none else some (Ranked.sorted Advice.privilege advices)

theorem onMethod_eq_ranking (hm : ∀ t ∈ types.types, (t.methods.map (·.name)).Nodup)
    (hj : j ∈ types.types.flatMap (·.methodJoints)) (ha : j.declaring.isAspect = false)
    (hi : j.method.isAdvisable = true) :
    ((cover types advices).onMethod j).map (·.advisors) =
      ranking (advices.filter fun a =>
        a.pointcut.isExecution && a.pointcut.maySelectMethod types j) := by
  have hf : advices.filter (attaches types j) = advices.filter fun a =>
      a.pointcut.isExecution && a.pointcut.maySelectMethod types j := by
    refine List.filter_congr fun a _ => ?_
    rw [attaches, ha, hi, Bool.not_false, Bool.true_and, Bool.true_and]
    cases hs : a.pointcut.maySelectMethod types j
    case false => exact (Bool.and_false _).symm
    case true  => rw [Pointcut.isExecution_of_maySelectMethod hs, Bool.and_self]
  rw [onMethod_cover hm hj, hf, ranking]

theorem onMethod_shielded (hm : ∀ t ∈ types.types, (t.methods.map (·.name)).Nodup)
    (hj : j ∈ types.types.flatMap (·.methodJoints))
    (h : j.declaring.isAspect = true ∨ j.method.isAdvisable = false) :
    (cover types advices).onMethod j = none := by
  have hf : advices.filter (attaches types j) = [] := by
    cases h with | _ h => simp [attaches, h]
  have ho : ((cover types advices).onMethod j).map (·.advisors) = none := by
    rw [onMethod_cover hm hj, if_pos hf]
  exact Option.map_eq_none_iff.mp ho

theorem onField_eq_ranking (hf : ∀ t ∈ types.types, (t.fields.map (·.name)).Nodup)
    (hj : f ∈ types.types.flatMap (·.fieldJoints)) (ha : f.declaring.isAspect = false)
    (hi : f.field.isInjected = true) :
    ((cover types advices).onField f).map (·.advisors) =
      ranking (advices.filter fun a =>
        a.pointcut.isAutowire && a.pointcut.selectsField types f) := by
  have hs : advices.filter (attachesField types f) = advices.filter fun a =>
      a.pointcut.isAutowire && a.pointcut.selectsField types f := by
    refine List.filter_congr fun a _ => ?_
    rw [attachesField, ha, hi, Bool.not_false, Bool.true_and, Bool.true_and]
    cases hs : a.pointcut.selectsField types f
    case false => exact (Bool.and_false _).symm
    case true  => rw [Pointcut.isAutowire_of_selectsField hs, Bool.and_self]
  rw [onField_cover hf hj, hs, ranking]

theorem onField_shielded (hf : ∀ t ∈ types.types, (t.fields.map (·.name)).Nodup)
    (hj : f ∈ types.types.flatMap (·.fieldJoints))
    (h : f.declaring.isAspect = true ∨ f.field.isInjected = false) :
    (cover types advices).onField f = none := by
  have hs : advices.filter (attachesField types f) = [] := by
    cases h with | _ h => simp [attachesField, h]
  have ho : ((cover types advices).onField f).map (·.advisors) = none := by
    rw [onField_cover hf hj, if_pos hs]
  exact Option.map_eq_none_iff.mp ho

-- What weaving attaches: wherever the type is no aspect and the member is open to advices, just the
-- advices that apply, ranked; and nothing elsewhere, be it a member of the types or none. Members
-- of a type have different names, so that none is mistaken for another.
theorem weave_attaches (hm : ∀ t ∈ types.types, (t.methods.map (·.name)).Nodup)
    (hf : ∀ t ∈ types.types, (t.fields.map (·.name)).Nodup) (he : config.enabled = true)
    (h : weave types advices config = .ok l) :
    (∀ j ∈ types.types.flatMap (·.methodJoints),
      (j.declaring.isAspect = false → (∀ k ∈ Method.shields, j.method.modifiers.has k = false) →
        (l.onMethod j).map (·.advisors) = ranking (advices.filter fun a =>
          a.pointcut.isExecution && a.pointcut.maySelectMethod types j)) ∧
      (j.declaring.isAspect = true ∨ (∃ k ∈ Method.shields, j.method.modifiers.has k = true) →
        l.onMethod j = none)) ∧
    (∀ f ∈ types.types.flatMap (·.fieldJoints),
      (f.declaring.isAspect = false →
        f.field.modifiers.has .static = false ∧ f.field.modifiers.has .final = false →
        (l.onField f).map (·.advisors) = ranking (advices.filter fun a =>
          a.pointcut.isAutowire && a.pointcut.selectsField types f)) ∧
      (f.declaring.isAspect = true ∨
          f.field.modifiers.has .static = true ∨ f.field.modifiers.has .final = true →
        l.onField f = none)) ∧
    (∀ j, (∀ k ∈ types.types.flatMap (·.methodJoints), k.key ≠ j.key) → l.onMethod j = none) ∧
    (∀ f, (∀ k ∈ types.types.flatMap (·.fieldJoints), k.key ≠ f.key) → l.onField f = none) ∧
    (∀ j j', j.key = j'.key → l.onMethod j = l.onMethod j') ∧
    ∀ f f', f.key = f'.key → l.onField f = l.onField f' := by
  have ht := tells_of_weave h
  have hl := weave_eq_ok he h
  refine ⟨fun j hj => ⟨?methods, ?shielded⟩, fun f hj => ⟨?fields, ?unfilled⟩,
    fun _ => AdvisorTable.find?_eq_none ht.methods, fun _ => AdvisorTable.find?_eq_none ht.fields,
    fun _ _ => AdvisorTable.find?_congr, fun _ _ => AdvisorTable.find?_congr⟩
  case methods =>
    intro ha hi
    rw [hl]
    exact onMethod_eq_ranking hm hj ha (Method.isAdvisable_iff.mpr hi)
  case fields =>
    intro ha hi
    rw [hl]
    exact onField_eq_ranking hf hj ha (Field.isInjected_iff.mpr hi)
  case shielded =>
    intro hs
    rw [hl]
    exact onMethod_shielded hm hj (hs.imp_right Method.not_isAdvisable_iff.mpr)
  case unfilled =>
    intro hs
    rw [hl]
    exact onField_shielded hf hj (hs.imp_right Field.not_isInjected_iff.mpr)

def closing : Method := { Method.plain "close" with modifiers := .ofList [.pub, .final] }

def limit : Field := { Field.plain "limit" "shop.Lamp" with modifiers := .ofList [.priv, .final] }

def counter : TypeDescription :=
  ((((TypeDescription.plain "shop.Counter").addMethod (.plain "sell")).addMethod closing).addField
    (.plain "lamp" "shop.Lamp")).addField limit

def auditor : TypeDescription :=
  ((TypeDescription.plain "shop.Audit").annotate ⟨ aspectAnnotation, []⟩).addMethod (.plain "sell")

def stand : Hierarchy := .ofList [counter, auditor]

-- An advice on the fields of a type.
def supply (typeName : String) : Advice Unit :=
  { watch "supply" with
    method := "supply", pointcut := .leaf .autowire (.autowire ⟨.parse typeName, none⟩) }

-- Two advices on sales, of which the second goes first, one on closing and one on lamps.
def standAdvices : List (Advice Unit) :=
  [watch "sell", { watch "sell" with method := "check", privilege := 1 }, watch "close",
    supply "shop.Lamp"]

-- The method that cannot be advised and that of the aspect have no advices, and nor has the field
-- that is not filled.
theorem weave_attaches_stand : ∃ l, weave stand standAdvices .default = .ok l ∧
    ((l.onMethod ⟨counter, .plain "sell"⟩).map (·.advisors)).map (·.map Advice.name) =
      some ["shop.Audit.check", "shop.Audit.watch"] ∧
    ((l.onField ⟨counter, .plain "lamp" "shop.Lamp"⟩).map (·.advisors)).map
      (·.map Advice.name) = some ["shop.Audit.supply"] ∧
    l.onMethod ⟨counter, closing⟩ = none ∧ l.onField ⟨counter, limit⟩ = none ∧
    l.onMethod ⟨auditor, .plain "sell"⟩ = none ∧ l.onMethod ⟨counter, .plain "buy"⟩ = none := by
  have hm : ∀ t ∈ stand.types, (t.methods.map (·.name)).Nodup := by decide +kernel
  have hf : ∀ t ∈ stand.types, (t.fields.map (·.name)).Nodup := by decide +kernel
  have ⟨l, hl⟩ : ∃ l, weave stand standAdvices .default = .ok l := ⟨_, rfl⟩
  have ⟨hmethods, hfields, hmethod, _⟩ := weave_attaches hm hf rfl hl
  have hj : ∀ m ∈ counter.methods, ⟨counter, m⟩ ∈ stand.types.flatMap (·.methodJoints) :=
    fun m hm => List.mem_flatMap.mpr ⟨counter, .head _, List.mem_map_of_mem hm⟩
  have hk : ∀ f ∈ counter.fields, ⟨counter, f⟩ ∈ stand.types.flatMap (·.fieldJoints) :=
    fun f hf => List.mem_flatMap.mpr ⟨counter, .head _, List.mem_map_of_mem hf⟩
  have hs : ⟨auditor, .plain "sell"⟩ ∈ stand.types.flatMap (·.methodJoints) :=
    List.mem_flatMap.mpr ⟨auditor, .tail _ (.head _), .head _⟩
  have ⟨hsell, _⟩ := hmethods ⟨counter, .plain "sell"⟩ (hj _ (.head _))
  have ⟨_, hclose⟩ := hmethods ⟨counter, closing⟩ (hj _ (.tail _ (.head _)))
  have ⟨_, haspect⟩ := hmethods ⟨auditor, .plain "sell"⟩ hs
  have ⟨hlamp, _⟩ := hfields ⟨counter, .plain "lamp" "shop.Lamp"⟩ (hk _ (.head _))
  have ⟨_, hlimit⟩ := hfields ⟨counter, limit⟩ (hk _ (.tail _ (.head _)))
  refine ⟨l, hl, ?sell, ?lamp, hclose (.inr ⟨.final, by decide, rfl⟩), hlimit (.inr (.inr rfl)),
    haspect (.inl rfl), hmethod _ (by decide +kernel)⟩
  case sell =>
    rw [hsell rfl (by decide), ranking, ← Ranked.ofList_advisors]
    decide +kernel
  case lamp =>
    rw [hlamp rfl ⟨rfl, rfl⟩, ranking, ← Ranked.ofList_advisors]
    decide +kernel

end Layer
end Interpose
