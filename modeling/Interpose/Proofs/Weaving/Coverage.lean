import Interpose.Proofs.Weaving.FieldLayer

namespace Interpose

variable {σ : Type} {advices : List (Advice σ)} {config : WeavingConfig} {l : Layer σ}
variable {r : Registry σ} {d : Definition σ}

namespace AdvisorTable

variable {κ : Type} {key : κ → String × String} {j : κ} {a : Advice σ} {table : AdvisorTable κ σ}

theorem isSome_find? : (find? key j table).isSome = table.any fun e => key e.1 == key j := by
  rw [find?, Option.isSome_map, Bool.eq_iff_iff, List.find?_isSome, List.any_eq_true]

theorem exists_of_find? (h : find? key j table ≠ none) : ∃ e ∈ table, key e.1 = key j := by
  have hs := isSome_find?.symm.trans (Option.isSome_iff_ne_none.mpr h)
  have ⟨e, he, hk⟩ := List.any_eq_true.mp hs
  exact ⟨e, he, eq_of_beq hk⟩

theorem mem_of_advisorsAt {as : List (κ × Advice σ)}
    (ha : a ∈ ((find? key j (ofAttachments key as)).map (·.advisors)).getD []) :
    a ∈ as.map (·.2) := by
  rw [find?_ofAttachments] at ha
  split at ha
  case isTrue  => cases ha
  case isFalse =>
    have hm : a ∈ attachedAt key j as := (Ranked.sorted_perm _ _).mem_iff.mp ha
    have ⟨e, he, hea⟩ := List.mem_map.mp hm
    exact List.mem_map.mpr ⟨e, List.mem_of_mem_filter he, hea⟩

theorem joints_attach : (attach key j a table).map (·.1) ⊆ j :: table.map (·.1) := by
  induction table
  case nil => exact List.Subset.refl _
  case cons e table hi =>
    rw [attach]
    split
    case isTrue  => exact List.subset_cons_self ..
    case isFalse =>
      intro k hk
      cases hk
      case head    => exact List.mem_cons_of_mem _ List.mem_cons_self
      case tail hk =>
        cases hi hk
        case head    => exact List.mem_cons_self
        case tail hk => exact List.mem_cons_of_mem _ (List.mem_cons_of_mem _ hk)

-- The table has the join points of the attachments and no others.
theorem joints_ofAttachments (as : List (κ × Advice σ)) :
    (ofAttachments key as).map (·.1) ⊆ as.map (·.1) := by
  have hf : ∀ table : AdvisorTable κ σ,
      (as.foldl (fun t e => attach key e.1 e.2 t) table).map (·.1) ⊆
        table.map (·.1) ++ as.map (·.1) := by
    induction as
    case nil => exact fun table => List.subset_append_left ..
    case cons e as hi =>
      intro table k hk
      cases List.mem_append.mp (hi _ hk)
      case inr hk => exact List.mem_append_right _ (List.mem_cons_of_mem _ hk)
      case inl hk =>
        cases joints_attach hk
        case head    => exact List.mem_append_right _ List.mem_cons_self
        case tail hk => exact List.mem_append_left _ hk
  exact hf []

end AdvisorTable

namespace Layer

-- If weaving is off there are no advices at all.
theorem bare_or_cover {types : Hierarchy} (h : weave types advices config = .ok l) :
    l = bare types ∨ l = cover types advices := by
  unfold weave at h
  split at h
  case isTrue  => exact .inl (Except.ok.inj h).symm
  case isFalse =>
    split at h
    case h_1 => cases h
    case h_2 => exact .inr (Except.ok.inj h).symm

theorem types_weave {types : Hierarchy} (h : weave types advices config = .ok l) :
    l.types = types := by
  cases bare_or_cover h
  case inl he => exact he ▸ rfl
  case inr he => exact he ▸ rfl

-- What a layer says of types: which members have advices, and what this makes of the types.
structure Tells (types : Hierarchy) (l : Layer σ) : Prop where
  methods        : ∀ e ∈ l.methodAdvisors, e.1 ∈ types.types.flatMap (·.methodJoints)
  fields         : ∀ e ∈ l.fieldAdvisors, e.1 ∈ types.types.flatMap (·.fieldJoints)
  allocation     : ∀ name, l.weavesAllocation name = true ↔
    ∃ e ∈ l.methodAdvisors, e.1.method.kind = .allocation ∧ e.1.declaring.name = name
  initialization : ∀ name, l.weavesInitialization name = true ↔
    ∃ e ∈ l.methodAdvisors, e.1.method.kind = .initialization ∧ e.1.declaring.name = name
  wiring         : ∀ name, l.weavesFields name = true ↔
    ∃ e ∈ l.fieldAdvisors, e.1.declaring.name = name
  proxied        : ∀ name, l.hasProxy name = true ↔
    (∃ e ∈ l.methodAdvisors, e.1.declaring.name = name) ∨
      ∃ e ∈ l.fieldAdvisors, e.1.declaring.name = name

theorem bare_tells (types : Hierarchy) : Tells (σ := σ) types (bare types) where
  methods        := nofun
  fields         := nofun
  allocation     := by simp [weavesAllocation, bare]
  initialization := by simp [weavesInitialization, bare]
  wiring         := by simp [weavesFields, bare]
  proxied        := by simp [hasProxy, bare]

theorem mem_of_advised {κ : Type} {joints : List κ} {chosen : Advice σ → List κ}
    (hc : ∀ a, chosen a ⊆ joints) {k : κ}
    (hk : k ∈ (advices.flatMap fun a => (chosen a).map (·, a)).map (·.1)) : k ∈ joints := by
  have ⟨e, he, hek⟩ := List.mem_map.mp hk
  have ⟨a, _, ha⟩ := List.mem_flatMap.mp he
  have ⟨k', hk', hp⟩ := List.mem_map.mp ha
  subst hp
  exact hek ▸ hc a hk'

theorem cover_tells (types : Hierarchy) (advices : List (Advice σ)) :
    Tells types (cover types advices) := by
  constructor
  case methods =>
    intro e he
    have hs : ∀ a : Advice σ, advisedMethods types a ⊆ types.types.flatMap (·.methodJoints) :=
      fun a => advisedMethods_eq types a ▸ List.filter_sublist.subset
    exact mem_of_advised hs <| AdvisorTable.joints_ofAttachments _ <| List.mem_map_of_mem he
  case fields =>
    intro e he
    have hs : ∀ a : Advice σ, advisedFields types a ⊆ types.types.flatMap (·.fieldJoints) :=
      fun a => advisedFields_eq types a ▸ List.filter_sublist.subset
    exact mem_of_advised hs <| AdvisorTable.joints_ofAttachments _ <| List.mem_map_of_mem he
  case allocation     => intro name; simp [weavesAllocation, cover, and_assoc]
  case initialization => intro name; simp [weavesInitialization, cover, and_assoc]
  case wiring         => intro name; simp [weavesFields, cover]
  case proxied        => intro name; simp [hasProxy, cover]

theorem tells_of_weave {types : Hierarchy} (h : weave types advices config = .ok l) :
    l.Tells types := by
  cases bare_or_cover h
  case inl he => exact he ▸ bare_tells types
  case inr he => exact he ▸ cover_tells types advices

section Members

variable {κ : Type} {key : κ → String × String} {declaring : κ → TypeDescription}
variable {members : TypeDescription → List κ} {table : AdvisorTable κ σ} {types : Hierarchy}
variable {type : TypeDescription} {P : κ → Prop}

-- A table that only has members of the types has something for a type if it has something for one
-- of its members.
theorem advised_iff (hk : ∀ k, (key k).1 = (declaring k).name)
    (hd : ∀ t, ∀ k ∈ members t, declaring k = t) (ht : types.get? type.name = some type)
    (hn : ((members type).map key).Nodup) (hj : ∀ e ∈ table, e.1 ∈ types.types.flatMap members) :
    (∃ e ∈ table, P e.1 ∧ (declaring e.1).name = type.name) ↔
      ∃ k ∈ members type, P k ∧ (AdvisorTable.find? key k table).isSome := by
  have hm : ∀ e ∈ table, (declaring e.1).name = type.name → e.1 ∈ members type := by
    intro e he hen
    have ⟨t, hmem, het⟩ := List.mem_flatMap.mp (hj e he)
    have hs := Hierarchy.get?_eq_some hmem
    rw [← hd t e.1 het, hen, ht] at hs
    exact Option.some.inj hs ▸ hd t e.1 het ▸ het
  simp only [AdvisorTable.isSome_find?, List.any_eq_true, beq_iff_eq]
  constructor
  case mp  => exact fun ⟨e, he, hP, hen⟩ => ⟨e.1, hm e he hen, hP, e, he, rfl⟩
  case mpr =>
    intro ⟨k, hkm, hP, e, he, hek⟩
    have hen : (declaring e.1).name = type.name := by rw [← hk, hek, hk, hd type k hkm]
    have hee : e.1 = k := List.inj_on_of_nodup_map hn (hm e he hen) hkm hek
    exact ⟨e, he, hee ▸ hP, hen⟩

end Members

namespace Tells

variable (h : l.Tells r.hierarchy) (hr : r.Regular) (hd : d ∈ r.definitions)
include h hr hd

theorem methods_iff (k : MethodRole) :
    (∃ e ∈ l.methodAdvisors, e.1.method.kind = k ∧ e.1.declaring.name = d.name) ↔
      ∃ j ∈ d.type.methodJoints, j.method.kind = k ∧ (l.onMethod j).isSome :=
  have ht := Registry.get?_hierarchy hd
  have hn := TypeDescription.nodup_key_methodJoints (hr d hd).methods
  advised_iff (P := fun j => j.method.kind = k) (fun _ => rfl)
    (fun _ _ => TypeDescription.declaring_of_mem_methodJoints) ht hn h.methods

theorem fields_iff :
    (∃ e ∈ l.fieldAdvisors, e.1.declaring.name = d.name) ↔
      ∃ j ∈ d.type.fieldJoints, (l.onField j).isSome := by
  have ht := Registry.get?_hierarchy hd
  have hn := TypeDescription.nodup_key_fieldJoints (hr d hd).fields
  have hf := advised_iff (P := fun _ => True) (fun _ => rfl)
    (fun _ _ => TypeDescription.declaring_of_mem_fieldJoints) ht hn h.fields
  simp only [true_and] at hf
  exact hf

end Tells

-- The layer has the advice at some member.
def Attached (l : Layer σ) (a : Advice σ) : Prop :=
  (∃ j, a ∈ l.advisorsAt j) ∨ ∃ j, a ∈ l.advisorsAtField j

theorem attached_of_onMethod {j : MethodJoint} {advisors : Advisors σ} {a : Advice σ}
    (ho : l.onMethod j = some advisors) (ha : a ∈ advisors.advisors) : l.Attached a := by
  refine .inl ⟨j, ?_⟩
  rw [advisorsAt, ho]
  exact ha

section Attachments

variable {types : Hierarchy} {a : Advice σ}

theorem mem_of_attachments {κ : Type} {chosen : Advice σ → List κ}
    (h : a ∈ (advices.flatMap fun a => (chosen a).map (·, a)).map (·.2)) :
    a ∈ advices ∧ ∃ k, k ∈ chosen a := by
  have ⟨e, he, hea⟩ := List.mem_map.mp h
  have ⟨b, hb, he⟩ := List.mem_flatMap.mp he
  have ⟨k, hk, hp⟩ := List.mem_map.mp he
  subst hp
  exact hea ▸ ⟨hb, k, hk⟩

-- What is at a method is among the advices that were woven in, and applies to some method.
theorem mem_of_advisorsAt {j : MethodJoint} (h : weave types advices config = .ok l)
    (ha : a ∈ l.advisorsAt j) : a ∈ advices ∧ ∃ k, k ∈ advisedMethods types a := by
  cases bare_or_cover h
  case inl he => subst he; cases ha
  case inr he => subst he; exact mem_of_attachments (AdvisorTable.mem_of_advisorsAt ha)

theorem mem_of_advisorsAtField {j : FieldJoint} (h : weave types advices config = .ok l)
    (ha : a ∈ l.advisorsAtField j) : a ∈ advices ∧ ∃ k, k ∈ advisedFields types a := by
  cases bare_or_cover h
  case inl he => subst he; cases ha
  case inr he => subst he; exact mem_of_attachments (AdvisorTable.mem_of_advisorsAt ha)

theorem mem_of_attached (h : weave types advices config = .ok l) (ha : l.Attached a) :
    a ∈ advices := by
  cases ha
  case inl ha => have ⟨_, ha⟩ := ha; exact (mem_of_advisorsAt h ha).left
  case inr ha => have ⟨_, ha⟩ := ha; exact (mem_of_advisorsAtField h ha).left

end Attachments

-- Without a proxy there are no advices.
theorem Tells.of_not_hasProxy {types : Hierarchy} (h : l.Tells types) (type : TypeDescription)
    (hp : l.hasProxy type.name = false) :
    (∀ m, l.onMethod ⟨type, m⟩ = none) ∧ ∀ f, l.onField ⟨type, f⟩ = none := by
  have hn := mt (h.proxied type.name).mpr (Bool.eq_false_iff.mp hp)
  constructor
  case left =>
    intro m
    by_contra ho
    have ⟨e, he, hk⟩ := AdvisorTable.exists_of_find? ho
    exact hn <| .inl ⟨e, he, congrArg Prod.fst hk⟩
  case right =>
    intro f
    by_contra ho
    have ⟨e, he, hk⟩ := AdvisorTable.exists_of_find? ho
    exact hn <| .inr ⟨e, he, congrArg Prod.fst hk⟩

end Layer
end Interpose
