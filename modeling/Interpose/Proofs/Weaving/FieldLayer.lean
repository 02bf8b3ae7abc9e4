import Interpose.Proofs.Weaving.Layer

namespace Interpose

namespace TypeDescription

variable {t : TypeDescription} {j : FieldJoint}

theorem declaring_of_mem_fieldJoints (hj : j ∈ t.fieldJoints) : j.declaring = t := by
  have ⟨f, _, he⟩ := List.mem_map.mp hj
  exact he ▸ rfl

theorem nodup_name_fieldJoints (h : (t.fields.map (·.name)).Nodup) :
    (t.fieldJoints.map FieldJoint.name).Nodup := by
  rw [fieldJoints, List.map_map]
  exact h

theorem nodup_key_fieldJoints (h : (t.fields.map (·.name)).Nodup) :
    (t.fieldJoints.map FieldJoint.key).Nodup := by
  refine List.Nodup.of_map Prod.snd ?_
  rw [List.map_map]
  exact nodup_name_fieldJoints h

end TypeDescription

-- A pointcut that selects a field speaks of fields.
theorem Pointcut.isAutowire_of_selectsField {types : Hierarchy} {j : FieldJoint} {p : Pointcut}
    (h : p.selectsField types j = true) : p.isAutowire = true := by
  cases p <;> simp_all [selectsField, isAutowire]

namespace Registry

variable {σ : Type} {r : Registry σ} {d : Definition σ} {f : Field}

theorem Regular.fields (hr : r.Regular) {t : TypeDescription} (ht : t ∈ r.hierarchy.types) :
    (t.fields.map (·.name)).Nodup := by
  rw [types_hierarchy] at ht
  have ⟨d, hd, he⟩ := List.mem_map.mp ht
  exact he ▸ (hr d hd).fields

theorem mem_fieldJoints_hierarchy (hd : d ∈ r.definitions) (hf : f ∈ d.type.fields) :
    ⟨d.type, f⟩ ∈ r.hierarchy.types.flatMap (·.fieldJoints) := by
  rw [types_hierarchy]
  exact List.mem_flatMap.mpr ⟨d.type, List.mem_map_of_mem hd, List.mem_map_of_mem hf⟩

end Registry

namespace Layer

variable {σ : Type} {types : Hierarchy} {advices : List (Advice σ)} {j : FieldJoint}

-- An advice is attached to a field while types are woven.
def attachesField (types : Hierarchy) (j : FieldJoint) (a : Advice σ) : Bool :=
  !j.declaring.isAspect && j.field.isInjected && a.pointcut.selectsField types j

theorem advisedFields_eq (types : Hierarchy) (a : Advice σ) : advisedFields types a =
    (types.types.flatMap (·.fieldJoints)).filter (attachesField types · a) := by
  have hd : ∀ t : TypeDescription, ∀ j ∈ t.fieldJoints, j.declaring = t :=
    fun _ _ => TypeDescription.declaring_of_mem_fieldJoints
  have hp : ∀ j : FieldJoint, (a.pointcut.isAutowire && a.pointcut.selectsField types j) =
      a.pointcut.selectsField types j := by
    intro j
    cases h : a.pointcut.selectsField types j
    case false => exact Bool.and_false _
    case true  => rw [Pointcut.isAutowire_of_selectsField h, Bool.and_self]
  simp only [advisedFields, hp]
  exact filter_flatMap_candidates hd

theorem onField_cover (hf : ∀ t ∈ types.types, (t.fields.map (·.name)).Nodup)
    (hj : j ∈ types.types.flatMap (·.fieldJoints)) :
    ((cover types advices).onField j).map (·.advisors) =
      if advices.filter (attachesField types j) = [] then none
      else some (Ranked.sorted Advice.privilege (advices.filter (attachesField types j))) := by
  have hd : ∀ t : TypeDescription, ∀ j ∈ t.fieldJoints, j.key.1 = t.name :=
    fun _ _ hj => congrArg (·.name) (TypeDescription.declaring_of_mem_fieldJoints hj)
  have hn : ∀ t ∈ types.types, (t.fieldJoints.map FieldJoint.key).Nodup :=
    fun t ht => TypeDescription.nodup_key_fieldJoints (hf t ht)
  have ha := AdvisorTable.attachedAt_flatMap (attachesField types) (nodup_flatMap_key hd hn) hj
    advices
  change (AdvisorTable.find? _ j (AdvisorTable.ofAttachments _ _)).map _ = _
  rw [AdvisorTable.find?_ofAttachments]
  simp only [advisedFields_eq, ha]

-- The advices at a field; none at all if the layer knows nothing of it.
def advisorsAtField (l : Layer σ) (j : FieldJoint) : List (Advice σ) :=
  ((l.onField j).map (·.advisors)).getD []

theorem advisorsAtField_cover (hf : ∀ t ∈ types.types, (t.fields.map (·.name)).Nodup)
    (hj : j ∈ types.types.flatMap (·.fieldJoints)) :
    (cover types advices).advisorsAtField j =
      Ranked.sorted Advice.privilege (advices.filter (attachesField types j)) := by
  rw [advisorsAtField, onField_cover hf hj]
  split
  case isTrue he  => rw [he, Ranked.sorted_nil]; rfl
  case isFalse he => rfl

end Layer
end Interpose
