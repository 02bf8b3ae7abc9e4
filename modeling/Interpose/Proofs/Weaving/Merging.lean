import Interpose.Proofs.Weaving.Kinds

namespace Interpose

open Outcome

namespace Pointcut

-- How several pointcuts fail to go together: the first is divergent, or one behind it is divergent
-- or of the other domain, and those before it have been joined.
inductive Clash : List Pointcut → Crosscut → Prop
  | first {p q : Pointcut} {ps : List Pointcut} (hp : p.crossesDomains = true) :
    Clash (p :: q :: ps) (.company p)
  | company {domain : Domain} {p q : Pointcut} {before after : List Pointcut}
    (hb : ∀ r ∈ p :: before, r.Only domain) (hq : q.crossesDomains = true) :
    Clash (p :: (before ++ q :: after)) (.company q)
  | apart {domain : Domain} {p q : Pointcut} {before after : List Pointcut}
    (hb : ∀ r ∈ p :: before, r.Only domain) (hq : q.Only domain.other) :
    Clash (p :: (before ++ q :: after)) (.apart (before.foldl (or domain) p) q)

variable {domain : Domain} {p q r : Pointcut} {ps : List Pointcut} {c : Crosscut}

theorem Only.not_crossesDomains (h : p.Only domain) : p.crossesDomains = false := by
  cases domain <;> rw [crossesDomains_eq] <;> simp_all [Only, belongsTo, Domain.other]

theorem crossesDomains_or_only (p : Pointcut) :
    p.crossesDomains = true ∨ ∃ domain, p.Only domain := by
  have hb := p.isExecution_or_isAutowire
  rw [crossesDomains_eq]
  cases he : p.isExecution <;> cases hw : p.isAutowire
  case false.false => simp [he, hw] at hb
  case true.true   => exact .inl rfl
  case true.false  => exact .inr ⟨.execution, he, hw⟩
  case false.true  => exact .inr ⟨.autowire, hw, he⟩

theorem merge_of_crossesDomains (hp : p.crossesDomains = true) :
    merge p q = .error (.company p) := by
  rw [merge, if_pos hp]

theorem merge_company (hp : p.Only domain) (hq : q.crossesDomains = true) :
    merge p q = .error (.company q) := by
  rw [merge, hp.not_crossesDomains, if_neg Bool.false_ne_true, if_pos hq]

theorem merge_of_only (hp : p.Only domain) (hq : q.Only domain) :
    merge p q = .ok (or domain p q) := by
  have hd : disj domain p q = .ok (or domain p q) :=
    disj_eq_ok.mpr ⟨only_iff.mp hp, only_iff.mp hq, rfl⟩
  have hc := hp.not_crossesDomains
  have hc' := hq.not_crossesDomains
  cases domain <;> simp_all [merge, sharesDomain, Only, belongsTo, Domain.other]

theorem merge_apart (hp : p.Only domain) (hq : q.Only domain.other) :
    merge p q = .error (.apart p q) := by
  have hc := hp.not_crossesDomains
  have hc' := hq.not_crossesDomains
  cases domain <;> simp_all [merge, sharesDomain, Only, belongsTo, Domain.other]

theorem foldlM_merge_of_only (h : ∀ q ∈ p :: ps, q.Only domain) :
    ps.foldlM merge p = .ok (ps.foldl (or domain) p) ∧ (ps.foldl (or domain) p).Only domain := by
  induction ps generalizing p
  case nil => exact ⟨rfl, h p List.mem_cons_self⟩
  case cons q ps hi =>
    have ⟨hp, h⟩ := List.forall_mem_cons.mp h
    have ⟨hq, h⟩ := List.forall_mem_cons.mp h
    have hr : (or domain p q).Only domain := only_iff.mpr isOnly_or
    rw [List.foldlM_cons, merge_of_only hp hq]
    exact hi (List.forall_mem_cons.mpr ⟨hr, h⟩)

theorem foldlM_merge_append {before after : List Pointcut} (h : ∀ r ∈ p :: before, r.Only domain) :
    (before ++ q :: after).foldlM merge p =
      merge (before.foldl (or domain) p) q >>= fun r => after.foldlM merge r := by
  rw [List.foldlM_append, (foldlM_merge_of_only h).left]
  rfl

-- What is joined clashes with what comes behind as its parts do.
theorem Clash.of_or (hp : p.Only domain) (hq : q.Only domain)
    (h : Clash (or domain p q :: ps) c) : Clash (p :: q :: ps) c := by
  have hr : (or domain p q).Only domain := only_iff.mpr isOnly_or
  have hb : ∀ {domain' : Domain} {before : List Pointcut},
      (∀ r ∈ or domain p q :: before, r.Only domain') →
        domain' = domain ∧ ∀ r ∈ p :: q :: before, r.Only domain := by
    intro domain' before hb
    have ⟨ho, hb⟩ := List.forall_mem_cons.mp hb
    have he := ho.eq hr
    exact ⟨he, List.forall_mem_cons.mpr ⟨hp, List.forall_mem_cons.mpr ⟨hq, he ▸ hb⟩⟩⟩
  cases h
  case first hc => cases hr.not_crossesDomains.symm.trans hc
  case company hc hd =>
    have ⟨_, hd⟩ := hb hd
    exact List.cons_append ▸ .company hd hc
  case apart ho hd =>
    have ⟨he, hd⟩ := hb hd
    subst he
    exact List.cons_append ▸ .apart hd ho

theorem clash_of_foldlM_merge (h : ps.foldlM merge p = .error c) : Clash (p :: ps) c := by
  induction ps generalizing p
  case nil => cases h
  case cons q ps hi =>
    rw [List.foldlM_cons] at h
    rcases crossesDomains_or_only p with hp | ⟨domain, hp⟩
    case inl =>
      rw [merge_of_crossesDomains hp] at h
      cases h
      exact .first hp
    case inr =>
      rcases crossesDomains_or_only q with hq | ⟨domain', hq⟩
      case inl =>
        rw [merge_company hp hq] at h
        cases h
        exact .company (List.forall_mem_singleton.mpr hp) hq
      case inr =>
        by_cases hd : domain' = domain
        case pos =>
          subst hd
          rw [merge_of_only hp hq] at h
          exact (hi h).of_or hp hq
        case neg =>
          have ho : domain' = domain.other := by cases domain <;> cases domain' <;> trivial
          subst ho
          rw [merge_apart hp hq] at h
          cases h
          exact .apart (List.forall_mem_singleton.mpr hp) hq

theorem foldlM_merge_eq_error : ps.foldlM merge p = .error c ↔ Clash (p :: ps) c := by
  constructor
  case mp => exact clash_of_foldlM_merge
  case mpr =>
    intro h
    cases h
    case first hp => rw [List.foldlM_cons, merge_of_crossesDomains hp]; rfl
    case company hq hb =>
      rw [foldlM_merge_append hb, merge_company (foldlM_merge_of_only hb).right hq]
      rfl
    case apart hq hb =>
      rw [foldlM_merge_append hb, merge_apart (foldlM_merge_of_only hb).right hq]
      rfl

theorem only_foldlM_merge (hp : p.Only domain) (h : ps.foldlM merge p = .ok r) : r.Only domain := by
  induction ps generalizing p
  case nil => exact pure_eq_ok.mp h ▸ hp
  case cons q ps hi =>
    have ⟨_, hm, h⟩ := foldlM_cons_eq_ok.mp h
    have ⟨domain', hd⟩ := exists_disj_of_merge hm
    have ⟨hp', _, he⟩ := disj_eq_ok.mp hd
    cases hp.eq (only_iff.mpr hp')
    exact hi (only_iff.mpr (he ▸ isOnly_or)) h

-- Several pointcuts go together if they are all of one domain alone, and one always does.
theorem foldlM_merge_iff : (∃ r, ps.foldlM merge p = .ok r) ↔
    ps = [] ∨ ∃ domain, ∀ q ∈ p :: ps, q.Only domain := by
  constructor
  case mp =>
    intro ⟨r, h⟩
    cases ps
    case nil => exact .inl rfl
    case cons q ps =>
      have ⟨_, hm, _⟩ := foldlM_cons_eq_ok.mp h
      have ⟨domain, hd⟩ := exists_disj_of_merge hm
      have ⟨hp, _, _⟩ := disj_eq_ok.mp hd
      exact .inr ⟨domain, only_of_foldlM_merge h (only_foldlM_merge (only_iff.mpr hp) h)⟩
  case mpr =>
    intro h
    cases h
    case inl h => exact ⟨p, h ▸ rfl⟩
    case inr h =>
      have ⟨_, h⟩ := h
      exact ⟨_, (foldlM_merge_of_only h).left⟩

-- A way to read pointcuts that finds in alternatives what it finds in one of them.
def Alternating (reading : Pointcut → Bool) : Prop :=
  ∀ domain p q, p.Only domain → q.Only domain →
    reading (or domain p q) = (reading p || reading q)

section Readings

variable {reading : Pointcut → Bool}

theorem Alternating.foldlM_merge (hr : Alternating reading) (h : ps.foldlM merge p = .ok r) :
    reading r = (p :: ps).any reading := by
  induction ps generalizing p
  case nil => rw [← pure_eq_ok.mp h, List.any_cons, List.any_nil, Bool.or_false]
  case cons q ps hi =>
    have ⟨_, hm, h⟩ := foldlM_cons_eq_ok.mp h
    have ⟨domain, hd⟩ := exists_disj_of_merge hm
    have ⟨hp, hq, he⟩ := disj_eq_ok.mp hd
    rw [hi h, ← he, List.any_cons, hr domain p q (only_iff.mpr hp) (only_iff.mpr hq),
      List.any_cons, List.any_cons, Bool.or_assoc]

theorem Only.belongsTo_eq (hp : p.Only domain) (d : Domain) : p.belongsTo d = (domain == d) := by
  cases domain <;> cases d
  case execution.execution => exact hp.left
  case autowire.autowire   => exact hp.left
  case execution.autowire  => exact hp.right
  case autowire.execution  => exact hp.right

theorem Only.isExecution_eq (hp : p.Only domain) : p.isExecution = (domain == .execution) :=
  hp.belongsTo_eq .execution

theorem belongsTo_alternating (d : Domain) : Alternating (·.belongsTo d) := by
  intro domain p q hp hq
  have hr : (or domain p q).Only domain := only_iff.mpr isOnly_or
  simp only [hp.belongsTo_eq, hq.belongsTo_eq, hr.belongsTo_eq, Bool.or_self]

theorem maySelectMethod_alternating (types : Hierarchy) (j : MethodJoint) :
    Alternating (·.maySelectMethod types j) := by
  intro domain p q hp hq
  have hr : (or domain p q).Only domain := only_iff.mpr isOnly_or
  simp only [maySelectMethod, hp.isExecution_eq, hq.isExecution_eq, hr.isExecution_eq, verdict,
    Verdict.or_bne_no, Bool.and_or_distrib_left]

theorem selectsMethod_alternating (types : Hierarchy) (caller : Option String) (j : MethodJoint) :
    Alternating (·.selectsMethod types caller j) := by
  intro domain p q hp hq
  have hr : (or domain p q).Only domain := only_iff.mpr isOnly_or
  simp only [selectsMethod, hp.isExecution_eq, hq.isExecution_eq, hr.isExecution_eq, verdict,
    Verdict.or_beq_yes, Bool.and_or_distrib_left]

theorem selectsField_alternating (types : Hierarchy) (f : FieldJoint) :
    Alternating (·.selectsField types f) := by
  intro domain p q hp hq
  cases domain
  case autowire  => simp [selectsField]
  case execution =>
    have hn : ∀ {r : Pointcut}, r.Only .execution → r.selectsField types f = false :=
      fun h => not_selectsField_of_isOnly (only_iff.mp h) f
    simp [selectsField, hn hp, hn hq]

end Readings

end Pointcut

end Interpose
