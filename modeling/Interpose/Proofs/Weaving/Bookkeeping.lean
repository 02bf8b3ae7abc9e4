import Interpose.Proofs.Weaving.Attachment

namespace Interpose

namespace AdvisorTable

variable {κ σ : Type} {key : κ → String × String} {joints : List κ} {j : κ} {a : Advice σ}
variable {table : AdvisorTable κ σ}

-- A join point without advices comes behind those that have some.
theorem keys_attach : (attach key j a table).map (fun e => key e.1) =
    if key j ∈ table.map (fun e => key e.1) then table.map fun e => key e.1
    else table.map (fun e => key e.1) ++ [key j] := by
  induction table
  case nil => rfl
  case cons e table hi =>
    obtain ⟨j', s⟩ := e
    by_cases hk : key j' = key j
    case pos => simp [attach, hk]
    case neg =>
      have hj : key j ≠ key j' := Ne.symm hk
      simp only [attach, hk, ↓reduceIte, List.map_cons, hi, List.mem_cons, hj, false_or]
      split <;> rfl

theorem nodup_ofAttachments (as : List (κ × Advice σ)) :
    ((ofAttachments key as).map fun e => key e.1).Nodup := by
  have hn : (([] : AdvisorTable κ σ).map fun e => key e.1).Nodup := List.nodup_nil
  refine List.foldlRecOn (motive := fun t : AdvisorTable κ σ => (t.map fun e => key e.1).Nodup)
    as _ hn fun t ht e _ => ?_
  rw [keys_attach]
  split
  case isTrue     => exact ht
  case isFalse hj => exact List.concat_eq_append ▸ ht.concat hj

-- A table has an entry for each of its join points.
theorem length_eq_countP (ht : (table.map fun e => key e.1).Nodup) (hj : (joints.map key).Nodup)
    (hs : ∀ e ∈ table, e.1 ∈ joints) :
    table.length = joints.countP fun j => (find? key j table).isSome := by
  have hk : (table.map fun e => key e.1) ⊆ joints.map key := by
    intro k hk
    have ⟨e, he, hek⟩ := List.mem_map.mp hk
    exact hek ▸ List.mem_map_of_mem (hs e he)
  rw [← List.length_map (fun e => key e.1), Keyed.length_eq_countP ht hj hk]
  refine List.countP_congr fun j _ => ?_
  rw [isSome_find?, decide_eq_true_eq, List.mem_map, List.any_eq_true]
  simp only [beq_iff_eq]

end AdvisorTable

namespace Layer

variable {σ : Type} {types : Hierarchy} {advices : List (Advice σ)} {config : WeavingConfig}
variable {l : Layer σ} {a : Advice σ}

-- An advice applies to some member of the types: its pointcut selects it, its type is no aspect and
-- it is open to advices.
def Applies (types : Hierarchy) (a : Advice σ) : Prop :=
  (∃ j ∈ types.types.flatMap (·.methodJoints), j.declaring.isAspect = false ∧
    (∀ k ∈ Method.shields, j.method.modifiers.has k = false) ∧
    a.pointcut.maySelectMethod types j = true) ∨
  ∃ f ∈ types.types.flatMap (·.fieldJoints), f.declaring.isAspect = false ∧
    (f.field.modifiers.has .static = false ∧ f.field.modifiers.has .final = false) ∧
    a.pointcut.selectsField types f = true

theorem attaches_iff {j : MethodJoint} : attaches types j a = true ↔
    j.declaring.isAspect = false ∧ (∀ k ∈ Method.shields, j.method.modifiers.has k = false) ∧
      a.pointcut.maySelectMethod types j = true := by
  rw [attaches, Bool.and_eq_true, Bool.and_eq_true, Bool.not_eq_true', Method.isAdvisable_iff,
    and_assoc]

theorem attachesField_iff {f : FieldJoint} : attachesField types f a = true ↔
    f.declaring.isAspect = false ∧
      (f.field.modifiers.has .static = false ∧ f.field.modifiers.has .final = false) ∧
      a.pointcut.selectsField types f = true := by
  rw [attachesField, Bool.and_eq_true, Bool.and_eq_true, Bool.not_eq_true', Field.isInjected_iff,
    and_assoc]

theorem applies_iff : Applies types a ↔
    (∃ j ∈ types.types.flatMap (·.methodJoints), attaches types j a = true) ∨
      ∃ f ∈ types.types.flatMap (·.fieldJoints), attachesField types f a = true := by
  simp only [Applies, attaches_iff, attachesField_iff]

theorem isDummy_iff : isDummy types a = true ↔ ¬Applies types a := by
  rw [isDummy, Bool.and_eq_true, List.isEmpty_iff, List.isEmpty_iff, advisedMethods_eq,
    advisedFields_eq, List.filter_eq_nil_iff, List.filter_eq_nil_iff, applies_iff, not_or]
  simp only [not_exists, not_and]

instance (types : Hierarchy) : DecidablePred (Applies (σ := σ) types) :=
  fun a => decidable_of_iff (isDummy types a = false) <| by
    rw [← not_iff_not, Bool.not_eq_false, isDummy_iff]

theorem find?_isDummy : advices.find? (isDummy types) = some a ↔ ∃ before after,
    advices = before ++ a :: after ∧ (∀ b ∈ before, Applies types b) ∧ ¬Applies types a := by
  have hb : ∀ b : Advice σ, (!isDummy types b) = true ↔ Applies types b := by
    intro b
    rw [Bool.not_eq_true', ← not_iff_not, Bool.not_eq_false, isDummy_iff]
  simp only [List.find?_eq_some_iff_append, isDummy_iff, hb]
  rw [and_comm, ← exists_and_right]
  simp only [← exists_and_right, and_assoc]

-- Weaving stops at the first advice that applies nowhere, if at all.
theorem weave_eq_error (he : config.enabled = true) {e : WeavingError} :
    weave types advices config = .error e ↔ config.failOnDummy = true ∧
      ∃ before a after, advices = before ++ a :: after ∧ (∀ b ∈ before, Applies types b) ∧
        ¬Applies types a ∧ e = .dummy a.name := by
  have hw : weave types advices config = .error e ↔ config.failOnDummy = true ∧
      ∃ a, advices.find? (isDummy types) = some a ∧ e = .dummy a.name := by
    rw [weave, he]
    cases config.failOnDummy <;> cases advices.find? (isDummy types) <;> simp [eq_comm]
  simp only [hw, find?_isDummy, ← exists_and_right, and_assoc]
  rw [exists_comm]

theorem weave_fails_iff (he : config.enabled = true) :
    (∃ e, weave types advices config = .error e) ↔
      config.failOnDummy = true ∧ ∃ a ∈ advices, ¬Applies types a := by
  have hf : (advices.find? (isDummy types)).isSome ↔ ∃ a ∈ advices, ¬Applies types a := by
    simp only [List.find?_isSome, isDummy_iff]
  rw [← hf, weave, he]
  cases config.failOnDummy <;> cases advices.find? (isDummy types) <;> simp

theorem attached_iff_applies (hm : ∀ t ∈ types.types, (t.methods.map (·.name)).Nodup)
    (hf : ∀ t ∈ types.types, (t.fields.map (·.name)).Nodup) (he : config.enabled = true)
    (h : weave types advices config = .ok l) (ha : a ∈ advices) :
    l.Attached a ↔ Applies types a := by
  rw [applies_iff]
  constructor
  case mp =>
    intro hl
    cases hl
    case inl hl =>
      have ⟨_, hj⟩ := hl
      have ⟨_, k, hk⟩ := mem_of_advisorsAt h hj
      rw [advisedMethods_eq] at hk
      exact .inl ⟨k, List.mem_filter.mp hk⟩
    case inr hl =>
      have ⟨_, hj⟩ := hl
      have ⟨_, k, hk⟩ := mem_of_advisorsAtField h hj
      rw [advisedFields_eq] at hk
      exact .inr ⟨k, List.mem_filter.mp hk⟩
  case mpr =>
    intro hl
    cases hl
    case inl hl =>
      have ⟨j, hj, hs⟩ := hl
      refine .inl ⟨j, ?_⟩
      rw [weave_eq_ok he h, advisorsAt_cover hm hj]
      exact (Ranked.sorted_perm _ _).mem_iff.mpr (List.mem_filter.mpr ⟨ha, hs⟩)
    case inr hl =>
      have ⟨f, hj, hs⟩ := hl
      refine .inr ⟨f, ?_⟩
      rw [weave_eq_ok he h, advisorsAtField_cover hf hj]
      exact (Ranked.sorted_perm _ _).mem_iff.mpr (List.mem_filter.mpr ⟨ha, hs⟩)

section Members

variable {κ : Type} {key : κ → String × String} {declaring : κ → TypeDescription}
variable {members : TypeDescription → List κ} {table : AdvisorTable κ σ} {P : κ → Prop}

-- What a table has under the name of a type is on members of the type of this name.
theorem advised_named_iff (hk : ∀ k, (key k).1 = (declaring k).name)
    (hd : ∀ t, ∀ k ∈ members t, declaring k = t)
    (hn : ∀ t ∈ types.types, ((members t).map key).Nodup)
    (hj : ∀ e ∈ table, e.1 ∈ types.types.flatMap members) (name : String) :
    (∃ e ∈ table, P e.1 ∧ (declaring e.1).name = name) ↔ ∃ t ∈ types.types, t.name = name ∧
      ∃ k ∈ members t, P k ∧ (AdvisorTable.find? key k table).isSome := by
  constructor
  case mp =>
    intro ⟨e, he, hP, hen⟩
    have ⟨t, ht, het⟩ := List.mem_flatMap.mp (hj e he)
    have hde : (declaring e.1).name = t.name := congrArg (·.name) (hd t e.1 het)
    have hs := advised_iff (P := P) hk hd (Hierarchy.get?_eq_some ht) (hn t ht) hj
    exact ⟨t, ht, hde.symm.trans hen, hs.mp ⟨e, he, hP, hde⟩⟩
  case mpr =>
    intro ⟨t, ht, hen, hs⟩
    exact hen ▸ (advised_iff hk hd (Hierarchy.get?_eq_some ht) (hn t ht) hj).mpr hs

end Members

variable (hm : ∀ t ∈ types.types, (t.methods.map (·.name)).Nodup)
variable (hf : ∀ t ∈ types.types, (t.fields.map (·.name)).Nodup)

include hm in
theorem nodup_methods : ((types.types.flatMap (·.methodJoints)).map MethodJoint.key).Nodup :=
  have hd : ∀ t : TypeDescription, ∀ j ∈ t.methodJoints, j.key.1 = t.name :=
    fun _ _ hj => congrArg (·.name) (TypeDescription.declaring_of_mem_methodJoints hj)
  nodup_flatMap_key hd fun t ht => TypeDescription.nodup_key_methodJoints (hm t ht)

include hf in
theorem nodup_fields : ((types.types.flatMap (·.fieldJoints)).map FieldJoint.key).Nodup :=
  have hd : ∀ t : TypeDescription, ∀ f ∈ t.fieldJoints, f.key.1 = t.name :=
    fun _ _ hj => congrArg (·.name) (TypeDescription.declaring_of_mem_fieldJoints hj)
  nodup_flatMap_key hd fun t ht => TypeDescription.nodup_key_fieldJoints (hf t ht)

section Tells

variable (h : l.Tells types)
include h

-- What makes a type woven makes it have a proxy.
theorem Tells.unwoven {name : String} (hp : l.hasProxy name = false) :
    l.weavesAllocation name = false ∧ l.weavesInitialization name = false ∧
      l.weavesFields name = false := by
  have hn := mt (h.proxied name).mpr (Bool.eq_false_iff.mp hp)
  refine ⟨Bool.eq_false_iff.mpr fun hw => ?_, Bool.eq_false_iff.mpr fun hw => ?_,
    Bool.eq_false_iff.mpr fun hw => hn (.inr ((h.wiring name).mp hw))⟩
  · have ⟨e, he, _, hen⟩ := (h.allocation name).mp hw
    exact hn (.inl ⟨e, he, hen⟩)
  · have ⟨e, he, _, hen⟩ := (h.initialization name).mp hw
    exact hn (.inl ⟨e, he, hen⟩)

include hm in
theorem Tells.methods_named (P : MethodJoint → Prop) (name : String) :
    (∃ e ∈ l.methodAdvisors, P e.1 ∧ e.1.declaring.name = name) ↔ ∃ t ∈ types.types,
      t.name = name ∧ ∃ j ∈ t.methodJoints, P j ∧ (l.onMethod j).isSome :=
  have hd : ∀ t : TypeDescription, ∀ j ∈ t.methodJoints, j.declaring = t :=
    fun _ _ => TypeDescription.declaring_of_mem_methodJoints
  have hn := fun t ht => TypeDescription.nodup_key_methodJoints (hm t ht)
  advised_named_iff (fun _ => rfl) hd hn h.methods name

include hf in
theorem Tells.fields_named (name : String) :
    (∃ e ∈ l.fieldAdvisors, e.1.declaring.name = name) ↔ ∃ t ∈ types.types,
      t.name = name ∧ ∃ f ∈ t.fieldJoints, (l.onField f).isSome := by
  have hd : ∀ t : TypeDescription, ∀ j ∈ t.fieldJoints, j.declaring = t :=
    fun _ _ => TypeDescription.declaring_of_mem_fieldJoints
  have hn := fun t ht => TypeDescription.nodup_key_fieldJoints (hf t ht)
  have hs := advised_named_iff (P := fun _ => True) (fun _ => rfl) hd hn h.fields name
  simp only [true_and] at hs
  exact hs

end Tells

-- The members with advices tell what a layer says of its types, and how it counts.
structure Books (types : Hierarchy) (advices : List (Advice σ)) (l : Layer σ) : Prop where
  attached       : ∀ a ∈ advices, l.Attached a ↔ Applies types a
  aspect         : ∀ name, l.isAspect name = true ↔
    ∃ t ∈ types.types, t.name = name ∧ t.isAspect = true
  proxied        : ∀ name, l.hasProxy name = true ↔ ∃ t ∈ types.types, t.name = name ∧
    ((∃ j ∈ t.methodJoints, (l.onMethod j).isSome) ∨ ∃ f ∈ t.fieldJoints, (l.onField f).isSome)
  allocation     : ∀ name, l.weavesAllocation name = true ↔ ∃ t ∈ types.types, t.name = name ∧
    ∃ j ∈ t.methodJoints, j.method.kind = .allocation ∧ (l.onMethod j).isSome
  initialization : ∀ name, l.weavesInitialization name = true ↔ ∃ t ∈ types.types, t.name = name ∧
    ∃ j ∈ t.methodJoints, j.method.kind = .initialization ∧ (l.onMethod j).isSome
  wiring         : ∀ name, l.weavesFields name = true ↔ ∃ t ∈ types.types, t.name = name ∧
    ∃ f ∈ t.fieldJoints, (l.onField f).isSome
  unwoven        : ∀ name, l.isAspect name = true → l.hasProxy name = false ∧
    l.weavesAllocation name = false ∧ l.weavesInitialization name = false ∧
      l.weavesFields name = false
  summary        : l.summary = {
    aspects := types.types.countP (·.isAspect)
    advices := advices.length
    dummies := advices.countP fun a => ¬Applies types a
    proxies := types.types.countP fun t =>
      t.methodJoints.any (fun j => (l.onMethod j).isSome) ||
        t.fieldJoints.any fun f => (l.onField f).isSome
    methods := (types.types.flatMap (·.methodJoints)).countP fun j => (l.onMethod j).isSome
    fields := (types.types.flatMap (·.fieldJoints)).countP fun f => (l.onField f).isSome }

-- An aspect has no members with advices.
include hm in
theorem onMethod_of_isAspect {t : TypeDescription} {j : MethodJoint} (ht : t ∈ types.types)
    (ha : t.isAspect = true) (hj : j ∈ t.methodJoints) : (cover types advices).onMethod j = none :=
  have hd := TypeDescription.declaring_of_mem_methodJoints hj
  onMethod_shielded hm (List.mem_flatMap.mpr ⟨t, ht, hj⟩) (.inl (hd ▸ ha))

include hf in
theorem onField_of_isAspect {t : TypeDescription} {f : FieldJoint} (ht : t ∈ types.types)
    (ha : t.isAspect = true) (hj : f ∈ t.fieldJoints) : (cover types advices).onField f = none :=
  have hd := TypeDescription.declaring_of_mem_fieldJoints hj
  onField_shielded hf (List.mem_flatMap.mpr ⟨t, ht, hj⟩) (.inl (hd ▸ ha))

section Books

include hm hf

theorem hasProxy_iff (h : l.Tells types) (name : String) : l.hasProxy name = true ↔
    ∃ t ∈ types.types, t.name = name ∧
      ((∃ j ∈ t.methodJoints, (l.onMethod j).isSome) ∨
        ∃ f ∈ t.fieldJoints, (l.onField f).isSome) := by
  have hs := h.methods_named hm (fun _ => True) name
  simp only [true_and] at hs
  rw [h.proxied, hs, h.fields_named hf]
  simp only [and_or_left, exists_or]

omit hm hf in
theorem isAspect_iff {name : String} : (cover types advices).isAspect name = true ↔
    ∃ t ∈ types.types, t.name = name ∧ t.isAspect = true := by
  rw [isAspect, List.contains_iff_mem, aspectNames, List.mem_map]
  simp only [cover, List.mem_filter]
  exact exists_congr fun t => and_assoc.trans (and_congr_right fun _ => and_comm)

theorem not_hasProxy_of_isAspect {name : String}
    (ha : (cover types advices).isAspect name = true) :
    (cover types advices).hasProxy name = false := by
  rw [Bool.eq_false_iff, ne_eq, hasProxy_iff hm hf (cover_tells types advices)]
  intro ⟨t, ht, hn, hs⟩
  have ⟨t', ht', hn', ha⟩ := isAspect_iff.mp ha
  have he : t' = t := List.inj_on_of_nodup_map types.nodup ht' ht (hn'.trans hn.symm)
  subst he
  cases hs
  case inl hs => have ⟨j, hj, ho⟩ := hs; rw [onMethod_of_isAspect hm ht ha hj] at ho; cases ho
  case inr hs => have ⟨f, hj, ho⟩ := hs; rw [onField_of_isAspect hf ht ha hj] at ho; cases ho

-- A type has a proxy if one of its own members has an advice.
theorem hasProxy_own (h : l.Tells types) {t : TypeDescription} (ht : t ∈ types.types) :
    l.hasProxy t.name = true ↔ t.methodJoints.any (fun j => (l.onMethod j).isSome) ||
      t.fieldJoints.any fun f => (l.onField f).isSome := by
  rw [hasProxy_iff hm hf h, Bool.or_eq_true, List.any_eq_true, List.any_eq_true]
  constructor
  case mp =>
    intro ⟨t', ht', hn, hs⟩
    exact List.inj_on_of_nodup_map types.nodup ht' ht hn ▸ hs
  case mpr => exact fun hs => ⟨t, ht, rfl, hs⟩

theorem length_proxies : (cover types advices).proxies.length =
    types.types.countP fun t =>
      t.methodJoints.any (fun j => ((cover types advices).onMethod j).isSome) ||
        t.fieldJoints.any fun f => ((cover types advices).onField f).isSome := by
  have ht := cover_tells types advices
  have hs : (cover types advices).proxies ⊆ types.types.map (·.name) := by
    intro name hn
    have hp := (hasProxy_iff hm hf ht name).mp (List.contains_iff_mem.mpr hn)
    have ⟨t, ht, he, _⟩ := hp
    exact he ▸ List.mem_map_of_mem ht
  have hn : (cover types advices).proxies.Nodup := Keyed.nodup_eraseDups _
  rw [Keyed.length_eq_countP hn types.nodup hs]
  refine List.countP_congr fun t hmem => ?_
  rw [← hasProxy_own hm hf ht hmem, decide_eq_true_eq, hasProxy, List.contains_iff_mem]

theorem cover_summary : (cover types advices).summary = {
    aspects := types.types.countP (·.isAspect)
    advices := advices.length
    dummies := advices.countP fun a => ¬Applies types a
    proxies := types.types.countP fun t =>
      t.methodJoints.any (fun j => ((cover types advices).onMethod j).isSome) ||
        t.fieldJoints.any fun f => ((cover types advices).onField f).isSome
    methods := (types.types.flatMap (·.methodJoints)).countP fun j =>
      ((cover types advices).onMethod j).isSome
    fields := (types.types.flatMap (·.fieldJoints)).countP fun f =>
      ((cover types advices).onField f).isSome } := by
  have ht := cover_tells types advices
  have haspects : (aspectNames types).length = types.types.countP (·.isAspect) := by
    rw [aspectNames, List.length_map, List.countP_eq_length_filter]
  have hdummies : (advices.filter (isDummy types)).length =
      advices.countP fun a => ¬Applies types a := by
    rw [← List.countP_eq_length_filter]
    refine List.countP_congr fun a _ => ?_
    rw [isDummy_iff, decide_eq_true_eq]
  have hmethods := AdvisorTable.length_eq_countP (AdvisorTable.nodup_ofAttachments _)
    (nodup_methods hm) ht.methods
  have hfields := AdvisorTable.length_eq_countP (AdvisorTable.nodup_ofAttachments _)
    (nodup_fields hf) ht.fields
  exact WeaveSummary.mk.injEq .. ▸
    ⟨haspects, rfl, hdummies, length_proxies hm hf, hmethods, hfields⟩

theorem cover_books (he : config.enabled = true) (h : weave types advices config = .ok l) :
    l.Books types advices := by
  have hl := weave_eq_ok he h
  have ht := tells_of_weave h
  constructor
  case attached       => exact fun a => attached_iff_applies hm hf he h
  case aspect         => exact fun name => hl ▸ isAspect_iff
  case proxied        => exact hasProxy_iff hm hf ht
  case allocation     =>
    exact fun name => (ht.allocation name).trans <|
      ht.methods_named hm (fun j => j.method.kind = .allocation) name
  case initialization =>
    exact fun name => (ht.initialization name).trans <|
      ht.methods_named hm (fun j => j.method.kind = .initialization) name
  case wiring         => exact fun name => (ht.wiring name).trans (ht.fields_named hf name)
  case summary        => exact hl ▸ cover_summary hm hf
  case unwoven        =>
    intro name ha
    have hp : l.hasProxy name = false := hl ▸ not_hasProxy_of_isAspect hm hf (hl ▸ ha)
    exact ⟨hp, ht.unwoven hp⟩

-- Weaving fails if it is to fail for advices that apply nowhere and there is one, and then it names
-- the first of them. Otherwise the layer keeps its books, and closing it changes nothing of them.
theorem weave_keeps_books (he : config.enabled = true) :
    ((∃ e, weave types advices config = .error e) ↔
      config.failOnDummy = true ∧ ∃ a ∈ advices, ¬Applies types a) ∧
    (∀ e, weave types advices config = .error e ↔ config.failOnDummy = true ∧
      ∃ before a after, advices = before ++ a :: after ∧ (∀ b ∈ before, Applies types b) ∧
        ¬Applies types a ∧ e = .dummy a.name) ∧
    ∀ l, weave types advices config = .ok l → l.Books types advices ∧
      l.close.summary = l.summary ∧ ∀ name, l.close.isAspect name = l.isAspect name ∧
        l.close.hasProxy name = l.hasProxy name ∧
        l.close.weavesAllocation name = l.weavesAllocation name ∧
        l.close.weavesInitialization name = l.weavesInitialization name ∧
        l.close.weavesFields name = l.weavesFields name :=
  ⟨weave_fails_iff he, fun _ => weave_eq_error he,
    fun _ h => ⟨cover_books hm hf he h, rfl, fun _ => ⟨rfl, rfl, rfl, rfl, rfl⟩⟩⟩

end Books

-- Closing cannot be advised, so that the advice on it applies nowhere.
theorem weave_keeps_books_stand :
    weave stand standAdvices { WeavingConfig.default with failOnDummy := true } =
      .error (.dummy "shop.Audit.watch") ∧
    ∃ l, weave stand standAdvices .default = .ok l ∧ l.summary = ⟨1, 4, 1, 1, 1, 1⟩ ∧
      l.hasProxy "shop.Counter" = true ∧ l.close.hasProxy "shop.Audit" = false ∧
      ¬l.Attached (watch "close") := by
  have hm : ∀ t ∈ stand.types, (t.methods.map (·.name)).Nodup := by decide +kernel
  have hf : ∀ t ∈ stand.types, (t.fields.map (·.name)).Nodup := by decide +kernel
  have hc : ¬Applies stand (watch "close") := by decide +kernel
  have hw := fun config => @weave_keeps_books Unit stand standAdvices config hm hf
  have ⟨_, hstop, _⟩ := hw { WeavingConfig.default with failOnDummy := true } rfl
  have ⟨_, _, hkept⟩ := hw .default rfl
  have ⟨l, hl⟩ : ∃ l, weave stand standAdvices .default = .ok l := ⟨_, rfl⟩
  have ⟨hb, _, hclose⟩ := hkept l hl
  have ⟨_, hproxy, _⟩ := hclose "shop.Audit"
  have haspect : l.isAspect "shop.Audit" = true :=
    (hb.aspect _).mpr ⟨auditor, .tail _ (.head _), rfl, rfl⟩
  refine ⟨(hstop _).mpr ⟨rfl, standAdvices.take 2, watch "close", [supply "shop.Lamp"], rfl,
    by decide +kernel, hc, rfl⟩, l, hl, ?summary, ?counter,
    hproxy.trans (hb.unwoven _ haspect).left,
    mt (hb.attached _ (.tail _ (.tail _ (.head _)))).mp hc⟩
  case summary => rw [hb.summary, weave_eq_ok rfl hl]; decide +kernel
  case counter =>
    refine (hb.proxied _).mpr ⟨counter, .head _, rfl, .inl ⟨⟨counter, .plain "sell"⟩, .head _, ?_⟩⟩
    rw [weave_eq_ok rfl hl]
    decide +kernel

end Layer
end Interpose
