import Interpose.Proofs.Component.Registry
import Interpose.Proofs.Weaving.Ranked
import Interpose.Weaving.Layer

namespace Interpose

namespace TypeDescription

variable {t : TypeDescription} {j : MethodJoint}

theorem declaring_of_mem_methodJoints (hj : j ∈ t.methodJoints) : j.declaring = t := by
  obtain ⟨m, _, rfl⟩ := List.mem_map.mp hj
  rfl

theorem nodup_name_methodJoints (h : (t.methods.map (·.name)).Nodup) :
    (t.methodJoints.map MethodJoint.name).Nodup := by
  rw [methodJoints, List.map_map]
  exact h

theorem nodup_key_methodJoints (h : (t.methods.map (·.name)).Nodup) :
    (t.methodJoints.map MethodJoint.key).Nodup := by
  refine List.Nodup.of_map Prod.snd ?_
  rw [List.map_map]
  exact nodup_name_methodJoints h

end TypeDescription

namespace AdvisorTable

variable {κ σ : Type} {key : κ → String × String} {j j' : κ} {a : Advice σ} {t : AdvisorTable κ σ}
variable {l : List (κ × Advice σ)}

-- The advices of the attachments that are at a join point.
def attachedAt (key : κ → String × String) (j : κ) (l : List (κ × Advice σ)) : List (Advice σ) :=
  (l.filter fun e => key e.1 = key j).map (·.2)

theorem attachedAt_cons (e : κ × Advice σ) : attachedAt key j (e :: l) =
    if key e.1 = key j then e.2 :: attachedAt key j l else attachedAt key j l := by
  simp only [attachedAt, List.filter_cons, decide_eq_true_eq]
  split <;> rfl

theorem attachedAt_append (l₁ l₂ : List (κ × Advice σ)) :
    attachedAt key j (l₁ ++ l₂) = attachedAt key j l₁ ++ attachedAt key j l₂ := by
  simp [attachedAt]

theorem find?_cons (e : κ × Advisors σ) : find? key j (e :: t) =
    if key e.1 = key j then some e.2 else find? key j t := by
  simp only [find?, List.find?_cons]
  split <;> simp_all

-- Join points of different keys are out of one another's way.
theorem find?_attach : find? key j (attach key j' a t) =
    if key j' = key j then some (((find? key j t).getD .empty).insert a) else find? key j t := by
  induction t
  case nil => simp [attach, find?]
  case cons e t hi =>
    obtain ⟨j'', s⟩ := e
    rw [attach]
    split
    case isTrue hk =>
      simp only [find?_cons, hk]
      split <;> rfl
    case isFalse hk =>
      simp only [find?_cons, hi]
      split
      case isTrue hj =>
        have hn : key j' ≠ key j := fun h => hk (hj.trans h.symm)
        simp [hn]
      case isFalse => rfl

theorem find?_foldl_attach : find? key j (l.foldl (fun t e => attach key e.1 e.2 t) t) =
    (attachedAt key j l).foldl (fun s a => some ((s.getD .empty).insert a)) (find? key j t) := by
  induction l generalizing t
  case nil => rfl
  case cons e l hi =>
    rw [List.foldl_cons, hi, find?_attach, attachedAt_cons]
    split <;> rfl

theorem foldl_insert_some (s : Advisors σ) (as : List (Advice σ)) :
    as.foldl (fun s a => some ((s.getD .empty).insert a)) (some s) = some (as.foldl .insert s) := by
  induction as generalizing s
  case nil => rfl
  case cons a as hi => exact hi (s.insert a)

theorem find?_ofAttachments : (find? key j (ofAttachments key l)).map (·.advisors) =
    if attachedAt key j l = [] then none
    else some (Ranked.sorted Advice.privilege (attachedAt key j l)) := by
  rw [ofAttachments, find?_foldl_attach]
  cases attachedAt key j l
  case nil => rfl
  case cons a as =>
    have ho := Ranked.ofList_advisors Advice.privilege (a :: as)
    change Option.map (·.advisors) (as.foldl _ (some (Ranked.empty.insert a))) = _
    rw [foldl_insert_some]
    simpa [Ranked.ofList] using ho

-- If each advice is attached wherever it applies among join points of different keys, then the
-- advices at one of them are those that apply there.
theorem attachedAt_flatMap {joints : List κ} (applies : κ → Advice σ → Bool)
    (hn : (joints.map key).Nodup) (hj : j ∈ joints) (as : List (Advice σ)) :
    attachedAt key j (as.flatMap fun a => (joints.filter (applies · a)).map (·, a)) =
      as.filter (applies j) := by
  induction as
  case nil => rfl
  case cons a as hi =>
    have ha : attachedAt key j ((joints.filter (applies · a)).map (·, a)) =
        [a].filter (applies j) := by
      have hs := Keyed.filter_eq_singleton hn hj
      have hc : (joints.filter (applies · a)).filter (fun b => key b = key j) =
          [j].filter (applies · a) := by
        rw [← hs, List.filter_filter, List.filter_filter]
        simp only [Bool.and_comm]
      have hm : attachedAt key j ((joints.filter (applies · a)).map (·, a)) =
          ((joints.filter (applies · a)).filter fun b => key b = key j).map fun _ => a := by
        rw [attachedAt, List.filter_map, List.map_map]
        rfl
      rw [hm, hc]
      cases h : applies j a <;> simp [h]
    rw [List.flatMap_cons, attachedAt_append, hi, ha, ← List.filter_append, List.singleton_append]

end AdvisorTable

namespace Layer

variable {σ κ : Type} {types : Hierarchy} {advices : List (Advice σ)} {j : MethodJoint}
variable {members : TypeDescription → List κ} {declaring : κ → TypeDescription}

-- Leaving out types and then members is the same as leaving out members of all types.
theorem filter_flatMap_candidates {p q : κ → Bool} (hd : ∀ t, ∀ k ∈ members t, declaring k = t) :
    ((candidates types).flatMap fun t => (members t).filter p).filter q =
      (types.types.flatMap members).filter fun k => !(declaring k).isAspect && p k && q k := by
  rw [candidates]
  induction types.types
  case nil => rfl
  case cons t ts hi =>
    have ht : (members t).filter (fun k => !(declaring k).isAspect && p k && q k) =
        (members t).filter fun k => !t.isAspect && p k && q k :=
      List.filter_congr fun k hk => by rw [hd t k hk]
    rw [List.flatMap_cons, List.filter_append, ← hi, ht, List.filter_cons]
    cases t.isAspect
    case true  => simp
    case false => simp [List.filter_filter, Bool.and_comm]

theorem nodup_flatMap_key {key : κ → String × String} (hd : ∀ t, ∀ k ∈ members t, (key k).1 = t.name)
    (hm : ∀ t ∈ types.types, ((members t).map key).Nodup) :
    ((types.types.flatMap members).map key).Nodup := by
  rw [List.map_flatMap, List.nodup_flatMap]
  refine ⟨hm, List.Pairwise.imp ?_ (List.pairwise_map.mp types.nodup)⟩
  intro t t' hn k hk hk'
  obtain ⟨m, hm, rfl⟩ := List.mem_map.mp hk
  obtain ⟨m', hm', he⟩ := List.mem_map.mp hk'
  exact hn <| (hd t m hm).symm.trans <| (congrArg Prod.fst he).symm.trans (hd t' m' hm')

-- An advice is attached to a method while types are woven.
def attaches (types : Hierarchy) (j : MethodJoint) (a : Advice σ) : Bool :=
  !j.declaring.isAspect && j.method.isAdvisable && a.pointcut.maySelectMethod types j

theorem advisedMethods_eq (types : Hierarchy) (a : Advice σ) : advisedMethods types a =
    (types.types.flatMap (·.methodJoints)).filter (attaches types · a) := by
  have hd : ∀ t : TypeDescription, ∀ j ∈ t.methodJoints, j.declaring = t :=
    fun _ _ => TypeDescription.declaring_of_mem_methodJoints
  exact filter_flatMap_candidates hd

theorem onMethod_cover (hm : ∀ t ∈ types.types, (t.methods.map (·.name)).Nodup)
    (hj : j ∈ types.types.flatMap (·.methodJoints)) :
    ((cover types advices).onMethod j).map (·.advisors) =
      if advices.filter (attaches types j) = [] then none
      else some (Ranked.sorted Advice.privilege (advices.filter (attaches types j))) := by
  have hd : ∀ t : TypeDescription, ∀ j ∈ t.methodJoints, j.key.1 = t.name :=
    fun _ _ hj => congrArg (·.name) (TypeDescription.declaring_of_mem_methodJoints hj)
  have hn : ∀ t ∈ types.types, (t.methodJoints.map MethodJoint.key).Nodup :=
    fun t ht => TypeDescription.nodup_key_methodJoints (hm t ht)
  have ha := AdvisorTable.attachedAt_flatMap (attaches types) (nodup_flatMap_key hd hn) hj advices
  change (AdvisorTable.find? _ j (AdvisorTable.ofAttachments _ _)).map _ = _
  rw [AdvisorTable.find?_ofAttachments]
  simp only [advisedMethods_eq, ha]

-- The advices at a method; none at all if the layer knows nothing of it.
def advisorsAt (l : Layer σ) (j : MethodJoint) : List (Advice σ) :=
  ((l.onMethod j).map (·.advisors)).getD []

theorem advisorsAt_cover (hm : ∀ t ∈ types.types, (t.methods.map (·.name)).Nodup)
    (hj : j ∈ types.types.flatMap (·.methodJoints)) :
    (cover types advices).advisorsAt j =
      Ranked.sorted Advice.privilege (advices.filter (attaches types j)) := by
  rw [advisorsAt, onMethod_cover hm hj]
  split
  case isTrue he  => rw [he, Ranked.sorted_nil]; rfl
  case isFalse he => rfl

-- A type with an advised method has a proxy.
theorem hasProxy_of_onMethod {l : Layer σ} (hl : l = cover types advices)
    (h : (l.onMethod j).isSome) : l.hasProxy j.declaring.name = true := by
  subst hl
  rw [onMethod, AdvisorTable.find?, Option.isSome_map, List.find?_isSome] at h
  obtain ⟨e, he, hk⟩ := h
  have hn : e.1.declaring.name = j.declaring.name := congrArg Prod.fst (eq_of_beq hk)
  simp only [hasProxy, cover, List.contains_eq_mem, decide_eq_true_eq, List.mem_eraseDups,
    List.mem_append]
  exact .inl <| List.mem_map.mpr ⟨e.1, List.mem_map_of_mem he, hn⟩

-- Weaving that succeeds does so by covering the types.
theorem weave_eq_ok {config : WeavingConfig} {l : Layer σ} (he : config.enabled = true)
    (h : weave types advices config = .ok l) : l = cover types advices := by
  rw [weave, he] at h
  simp only [Bool.not_true, Bool.false_eq_true, ↓reduceIte] at h
  split at h
  case h_1 => cases h
  case h_2 => exact (Except.ok.inj h).symm

end Layer
end Interpose
