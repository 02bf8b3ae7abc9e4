import Interpose.Proofs.Pointcut.Meaning

namespace Interpose.Pointcut

-- The pointcuts that designators and operations make.
inductive Constructible : Pointcut → Prop
  | designator (domain : Domain) (d : Designator) : Constructible (ofDesignator domain d)
  | conj {domain : Domain} {p q r : Pointcut} : Constructible p → Constructible q →
    conj domain p q = .ok r → Constructible r
  | disj {domain : Domain} {p q r : Pointcut} : Constructible p → Constructible q →
    disj domain p q = .ok r → Constructible r
  | negate {domain : Domain} {p r : Pointcut} : Constructible p → negate domain p = .ok r →
    Constructible r
  | acrossDomains {e w r : Pointcut} : Constructible e → Constructible w →
    acrossDomains e w = .ok r → Constructible r

-- The designators that may stand in a pointcut of a domain.
def Domain.admits : Domain → Designator → Bool
  | .execution, .execution _ | .execution, .within _ | .execution, .annotatedWithin _
  | .execution, .annotatedExecution _ | .execution, .target _ | .execution, .annotatedTarget _ =>
    true
  | .autowire, .autowire _ | .autowire, .annotatedAutowire _ | .autowire, .target _
  | .autowire, .annotatedTarget _ => true
  | _, _ => false

def belongsTo (p : Pointcut) : Domain → Bool
  | .execution => p.isExecution
  | .autowire => p.isAutowire

-- Belongs to a domain and to no other one.
def Only (domain : Domain) (p : Pointcut) : Prop :=
  p.belongsTo domain = true ∧ p.belongsTo domain.other = false

-- What a pointcut is made of, itself apart.
def inner : Pointcut → List Pointcut
  | leaf _ _ => []
  | and _ l r | or _ l r | divergent l r => l :: r :: (l.inner ++ r.inner)
  | not _ p => p :: p.inner

def leaves : Pointcut → List Designator
  | leaf _ d => [d]
  | and _ l r | or _ l r | divergent l r => l.leaves ++ r.leaves
  | not _ p => p.leaves

-- Everything in the pointcut is of the domain, down to the designators.
inductive Uniform (domain : Domain) : Pointcut → Prop
  | leaf {d : Designator} : domain.admits d = true → Uniform domain (leaf domain d)
  | and {l r : Pointcut} : Uniform domain l → Uniform domain r → Uniform domain (and domain l r)
  | or {l r : Pointcut} : Uniform domain l → Uniform domain r → Uniform domain (or domain l r)
  | not {p : Pointcut} : Uniform domain p → Uniform domain (not domain p)

-- How the domains are laid out in a pointcut.
structure Settled (p : Pointcut) : Prop where
  belongs   : p.isExecution = true ∨ p.isAutowire = true
  divergent : p.crossesDomains = true ↔ p.isExecution = true ∧ p.isAutowire = true
  root      : ∀ q ∈ p.inner, q.crossesDomains = false
  leaves    : ∀ q ∈ p :: p.inner, ∀ domain, q.Only domain → ∀ d ∈ q.leaves, domain.admits d = true

-- An operation gives a result just if each operand is of its domain only, and otherwise names one
-- that is not.
structure Demands (operation : Operation) (operands : List (Domain × Pointcut))
    (outcome : Except Crosscut Pointcut) : Prop where
  ok    : (∃ r, outcome = .ok r) ↔ ∀ o ∈ operands, o.2.Only o.1
  error : ∀ c, outcome = .error c → ∃ o ∈ operands, ¬o.2.Only o.1 ∧ c = .foreign operation o.1 o.2

section Domains

variable {domain domain' : Domain} {p q r e w : Pointcut} {d : Designator}

theorem admits_iff : domain.admits d = true ↔ d.domain?.getD domain = domain := by
  cases domain <;> cases d <;> simp [Domain.admits, Designator.domain?]

theorem only_iff : p.Only domain ↔ p.isOnly domain = true := by
  cases domain <;> cases p <;>
    simp [Only, belongsTo, Domain.other, isOnly, isExecution, isAutowire, crossesDomains]

namespace Uniform

theorem isOnly_iff (h : p.Uniform domain) : p.isOnly domain' = true ↔ domain' = domain := by
  cases h <;> cases domain <;> cases domain' <;>
    simp [isOnly, isExecution, isAutowire, crossesDomains]

theorem isExecution (h : p.Uniform domain) : p.isExecution = (domain == .execution) := by
  cases h <;> rfl

theorem isAutowire (h : p.Uniform domain) : p.isAutowire = (domain == .autowire) := by
  cases h <;> rfl

theorem not_crossesDomains (h : p.Uniform domain) : p.crossesDomains = false := by
  cases h <;> rfl

theorem inner (h : p.Uniform domain) : ∀ q ∈ p.inner, q.Uniform domain := by
  induction h
  case leaf => exact nofun
  case and hl hr hil hir =>
    simp only [Pointcut.inner, List.mem_cons, List.mem_append]
    rintro q (rfl | rfl | hq | hq)
    exacts [hl, hr, hil q hq, hir q hq]
  case or hl hr hil hir =>
    simp only [Pointcut.inner, List.mem_cons, List.mem_append]
    rintro q (rfl | rfl | hq | hq)
    exacts [hl, hr, hil q hq, hir q hq]
  case not h hi =>
    simp only [Pointcut.inner, List.mem_cons]
    rintro q (rfl | hq)
    exacts [h, hi q hq]

theorem leaves (h : p.Uniform domain) : ∀ d ∈ p.leaves, domain.admits d = true := by
  induction h
  case leaf h     => simpa [Pointcut.leaves] using h
  case and hl hr  => exact fun d hd => (List.mem_append.mp hd).elim (hl d) (hr d)
  case or hl hr   => exact fun d hd => (List.mem_append.mp hd).elim (hl d) (hr d)
  case not hi     => exact hi

theorem constructible (h : p.Uniform domain) : Constructible p := by
  induction h
  case leaf d h =>
    have hd : ofDesignator domain d = Pointcut.leaf domain d := by
      rw [ofDesignator, admits_iff.mp h]
    exact hd ▸ .designator domain d
  case and hl hr hil hir =>
    exact .conj hil hir (conj_eq_ok.mpr ⟨hl.isOnly_iff.mpr rfl, hr.isOnly_iff.mpr rfl, rfl⟩)
  case or hl hr hil hir =>
    exact .disj hil hir (disj_eq_ok.mpr ⟨hl.isOnly_iff.mpr rfl, hr.isOnly_iff.mpr rfl, rfl⟩)
  case not h hi =>
    exact .negate hi (negate_eq_ok.mpr ⟨h.isOnly_iff.mpr rfl, rfl⟩)

theorem settled (h : p.Uniform domain) : p.Settled where
  belongs := by
    rw [h.isExecution, h.isAutowire]
    cases domain <;> simp
  divergent := by
    rw [h.not_crossesDomains, h.isExecution, h.isAutowire]
    cases domain <;> simp
  root q hq := (h.inner q hq).not_crossesDomains
  leaves q hq domain' ho d hd := by
    have hu : q.Uniform domain := by
      cases List.mem_cons.mp hq
      case inl he => exact he ▸ h
      case inr hi => exact h.inner q hi
    exact hu.isOnly_iff.mp (only_iff.mp ho) ▸ hu.leaves d hd

end Uniform

theorem uniform_ofDesignator (domain : Domain) (d : Designator) :
    (ofDesignator domain d).Uniform (d.domain?.getD domain) :=
  .leaf <| admits_iff.mpr <| by cases d <;> rfl

-- The operands of an operation are uniform: a divergent pointcut is of no domain alone.
theorem uniform_of_isOnly
    (h : (∃ domain, p.Uniform domain) ∨
      ∃ e w, p = divergent e w ∧ e.Uniform .execution ∧ w.Uniform .autowire)
    (ho : p.isOnly domain = true) : p.Uniform domain := by
  rcases h with ⟨domain', h⟩ | ⟨e, w, rfl, _, _⟩
  case inl => exact h.isOnly_iff.mp ho ▸ h
  case inr => cases domain <;> simp [isOnly, isExecution, isAutowire] at ho

theorem constructible_iff : Constructible p ↔ (∃ domain, p.Uniform domain) ∨
    ∃ e w, p = divergent e w ∧ e.Uniform .execution ∧ w.Uniform .autowire := by
  constructor
  case mp =>
    intro h
    induction h
    case designator domain d => exact .inl ⟨_, uniform_ofDesignator domain d⟩
    case conj h hp hq =>
      obtain ⟨hop, hoq, rfl⟩ := conj_eq_ok.mp h
      exact .inl ⟨_, .and (uniform_of_isOnly hp hop) (uniform_of_isOnly hq hoq)⟩
    case disj h hp hq =>
      obtain ⟨hop, hoq, rfl⟩ := disj_eq_ok.mp h
      exact .inl ⟨_, .or (uniform_of_isOnly hp hop) (uniform_of_isOnly hq hoq)⟩
    case negate h hp =>
      obtain ⟨hop, rfl⟩ := negate_eq_ok.mp h
      exact .inl ⟨_, .not (uniform_of_isOnly hp hop)⟩
    case acrossDomains h he hw =>
      obtain ⟨hoe, how, rfl⟩ := acrossDomains_eq_ok.mp h
      exact .inr ⟨_, _, rfl, uniform_of_isOnly he hoe, uniform_of_isOnly hw how⟩
  case mpr =>
    rintro (⟨domain, h⟩ | ⟨e, w, rfl, he, hw⟩)
    case inl => exact h.constructible
    case inr =>
      exact .acrossDomains he.constructible hw.constructible <|
        acrossDomains_eq_ok.mpr ⟨he.isOnly_iff.mpr rfl, hw.isOnly_iff.mpr rfl, rfl⟩

theorem settled_divergent (he : e.Uniform .execution) (hw : w.Uniform .autowire) :
    (divergent e w).Settled where
  belongs := .inl rfl
  divergent := by simp [isExecution, isAutowire, crossesDomains]
  root q hq := by
    simp only [inner, List.mem_cons, List.mem_append] at hq
    rcases hq with rfl | rfl | hq | hq
    exacts [he.not_crossesDomains, hw.not_crossesDomains, he.settled.root q hq,
      hw.settled.root q hq]
  leaves q hq domain ho d hd := by
    simp only [inner, List.mem_cons, List.mem_append] at hq
    rcases hq with rfl | rfl | rfl | hq | hq
    · cases domain <;> simp [Only, belongsTo, Domain.other, isExecution, isAutowire] at ho
    · exact he.settled.leaves q List.mem_cons_self domain ho d hd
    · exact hw.settled.leaves q List.mem_cons_self domain ho d hd
    · exact he.settled.leaves q (List.mem_cons_of_mem _ hq) domain ho d hd
    · exact hw.settled.leaves q (List.mem_cons_of_mem _ hq) domain ho d hd

theorem Constructible.settled (h : Constructible p) : p.Settled := by
  rcases constructible_iff.mp h with ⟨domain, hu⟩ | ⟨e, w, rfl, he, hw⟩
  case inl => exact hu.settled
  case inr => exact settled_divergent he hw

end Domains

namespace Demands

variable {operation : Operation} {domain : Domain} {p r : Pointcut}
variable {operands : List (Domain × Pointcut)} {outcome : Except Crosscut Pointcut}

theorem nil : Demands operation [] (.ok r) where
  ok := by simp
  error := nofun

-- The operands are looked at one after the other, before they are joined.
theorem cons (h : Demands operation operands outcome) :
    Demands operation ((domain, p) :: operands) (do require operation domain p; outcome) := by
  by_cases ho : p.Only domain
  case pos =>
    have hr : (do require operation domain p; outcome) = outcome := by
      simp [require, only_iff.mp ho, bind, Except.bind]
    rw [hr]
    constructor
    case ok => simp [h.ok, ho]
    case error =>
      intro c hc
      obtain ⟨o, hm, hn⟩ := h.error c hc
      exact ⟨o, List.mem_cons_of_mem _ hm, hn⟩
  case neg =>
    have hr : (do require operation domain p; outcome) = .error (.foreign operation domain p) := by
      simp [require, mt only_iff.mpr ho, bind, Except.bind]
    rw [hr]
    constructor
    case ok => simp [ho]
    case error =>
      rintro _ ⟨⟩
      exact ⟨_, List.mem_cons_self, ho, rfl⟩

end Demands

section Operations

variable {domain : Domain} {p q e w : Pointcut}

theorem demands_conj : Demands .and [(domain, p), (domain, q)] (conj domain p q) :=
  .cons (.cons .nil)

theorem demands_disj : Demands .or [(domain, p), (domain, q)] (disj domain p q) :=
  .cons (.cons .nil)

theorem demands_negate : Demands .not [(domain, p)] (negate domain p) :=
  .cons .nil

theorem demands_acrossDomains :
    Demands .acrossDomains [(.execution, e), (.autowire, w)] (acrossDomains e w) :=
  .cons (.cons .nil)

theorem isExecution_or_isAutowire (p : Pointcut) : (p.isExecution || p.isAutowire) = true := by
  rcases p with ⟨⟨⟩, _⟩ | ⟨⟨⟩, _, _⟩ | ⟨⟨⟩, _, _⟩ | ⟨⟨⟩, _⟩ | _ <;> rfl

theorem crossesDomains_eq (p : Pointcut) :
    p.crossesDomains = (p.isExecution && p.isAutowire) := by
  rcases p with ⟨⟨⟩, _⟩ | ⟨⟨⟩, _, _⟩ | ⟨⟨⟩, _, _⟩ | ⟨⟨⟩, _⟩ | _ <;> rfl

-- Two pointcuts share a domain if they can be alternatives of one another in just one domain.
theorem sharesDomain_iff : p.sharesDomain q = true ↔
    Xor (∃ r, disj .execution p q = .ok r) (∃ r, disj .autowire p q = .ok r) := by
  simp only [demands_disj.ok, List.forall_mem_cons, List.not_mem_nil, false_imp_iff, implies_true,
    and_true, only_iff, isOnly, sharesDomain, crossesDomains_eq]
  have hp := p.isExecution_or_isAutowire
  have hq := q.isExecution_or_isAutowire
  revert hp hq
  cases p.isExecution <;> cases p.isAutowire <;> cases q.isExecution <;> cases q.isAutowire <;>
    simp [Xor]

end Operations

-- In what can be constructed, a divergent pointcut only stands at the root, and the designators
-- below a pointcut of one domain are of this domain or of either. The operations give a result
-- just for operands of their domains.
theorem domains_settled :
    (∀ p, Constructible p → p.Settled) ∧
    (∀ domain p q, Demands .and [(domain, p), (domain, q)] (conj domain p q)) ∧
    (∀ domain p q, Demands .or [(domain, p), (domain, q)] (disj domain p q)) ∧
    (∀ domain p, Demands .not [(domain, p)] (negate domain p)) ∧
    (∀ e w, Demands .acrossDomains [(.execution, e), (.autowire, w)] (acrossDomains e w)) ∧
    ∀ p q, p.sharesDomain q = true ↔
      Xor (∃ r, disj .execution p q = .ok r) (∃ r, disj .autowire p q = .ok r) :=
  ⟨fun _ => Constructible.settled, fun _ _ _ => demands_conj, fun _ _ _ => demands_disj,
    fun _ _ => demands_negate, fun _ _ => demands_acrossDomains, fun _ _ => sharesDomain_iff⟩

theorem domains_settled_divergent :
    Constructible (divergent (not .execution (leaf .execution (.within (.parse "shop.Till"))))
      (leaf .autowire (.target (.parse "shop.*")))) ∧
    Settled (divergent (not .execution (leaf .execution (.within (.parse "shop.Till"))))
      (leaf .autowire (.target (.parse "shop.*")))) :=
  have h := constructible_iff.mpr <| .inr ⟨_, _, rfl, .not (.leaf rfl), .leaf rfl⟩
  ⟨h, domains_settled.left _ h⟩

-- What a reading makes of the operations of a domain is what booleans make of the operands.
structure Boolean (domain : Domain) (reading : Pointcut → Bool) : Prop where
  conj   : ∀ p q, p.Only domain → q.Only domain →
    ∃ r, conj domain p q = .ok r ∧ reading r = (reading p && reading q)
  disj   : ∀ p q, p.Only domain → q.Only domain →
    ∃ r, disj domain p q = .ok r ∧ reading r = (reading p || reading q)
  negate : ∀ p, p.Only domain → ∃ r, negate domain p = .ok r ∧ reading r = !reading p

section Laws

variable {domain : Domain} {p : Pointcut} {types : Hierarchy} {caller : Option String}
variable {j : MethodJoint} {f : FieldJoint}

-- It is enough that the connectives are read so between pointcuts of the domain.
theorem Boolean.of_connectives {reading : Pointcut → Bool}
    (hand : ∀ p q, p.Only domain → q.Only domain →
      reading (and domain p q) = (reading p && reading q))
    (hor : ∀ p q, p.Only domain → q.Only domain →
      reading (or domain p q) = (reading p || reading q))
    (hnot : ∀ p, p.Only domain → reading (not domain p) = !reading p) :
    Boolean domain reading where
  conj p q hp hq :=
    ⟨_, conj_eq_ok.mpr ⟨only_iff.mp hp, only_iff.mp hq, rfl⟩, hand p q hp hq⟩
  disj p q hp hq :=
    ⟨_, disj_eq_ok.mpr ⟨only_iff.mp hp, only_iff.mp hq, rfl⟩, hor p q hp hq⟩
  negate p hp := ⟨_, negate_eq_ok.mpr ⟨only_iff.mp hp, rfl⟩, hnot p hp⟩

theorem selectsMethod_of_only (h : p.Only .execution) : p.selectsMethod types caller j =
    p.holds (Designator.selectsMethod types caller j) := by
  rw [selectsMethod_eq, isExecution_of_isOnly (only_iff.mp h), Bool.true_and]

theorem selectsMethod_boolean (types : Hierarchy) (caller : Option String) (j : MethodJoint) :
    Boolean .execution (·.selectsMethod types caller j) := by
  apply Boolean.of_connectives
  case hand =>
    intro p q hp hq
    have hr : (and .execution p q).Only .execution := only_iff.mpr isOnly_and
    rw [selectsMethod_of_only hp, selectsMethod_of_only hq, selectsMethod_of_only hr, holds]
  case hor =>
    intro p q hp hq
    have hr : (or .execution p q).Only .execution := only_iff.mpr isOnly_or
    rw [selectsMethod_of_only hp, selectsMethod_of_only hq, selectsMethod_of_only hr, holds]
  case hnot =>
    intro p hp
    have hr : (not .execution p).Only .execution := only_iff.mpr isOnly_not
    rw [selectsMethod_of_only hp, selectsMethod_of_only hr, holds]

theorem selectsField_boolean (types : Hierarchy) (f : FieldJoint) :
    Boolean .autowire (·.selectsField types f) :=
  .of_connectives (fun p q _ _ => (selectsField_reads types f).and p q)
    (fun p q _ _ => (selectsField_reads types f).or p q)
    fun p _ => (selectsField_reads types f).not p

theorem not_selectsMethod_of_only (h : p.Only .autowire) :
    p.selectsMethod types caller j = false := by
  rw [selectsMethod, not_isExecution_of_isOnly (only_iff.mp h), Bool.false_and]

theorem selectsMethod_divergent {e w : Pointcut} (h : e.Only .execution) :
    (divergent e w).selectsMethod types caller j = e.selectsMethod types caller j := by
  rw [selectsMethod, selectsMethod, isExecution_of_isOnly (only_iff.mp h)]
  rfl

theorem maySelectMethod_divergent {e w : Pointcut} (h : e.Only .execution) :
    (divergent e w).maySelectMethod types j = e.maySelectMethod types j := by
  rw [maySelectMethod, maySelectMethod, isExecution_of_isOnly (only_iff.mp h)]
  rfl

end Laws

-- Within a domain the operations are those of booleans, for every caller and for none; the other
-- domain is never met, not even by a negation; and a divergent pointcut is its two sides.
theorem operations_boolean :
    (∀ types caller j, Boolean .execution (·.selectsMethod types caller j)) ∧
    (∀ types f, Boolean .autowire (·.selectsField types f)) ∧
    (∀ p, p.Only .execution → ∃ n, negate .execution p = .ok n ∧
      ∀ types f, p.selectsField types f = false ∧ n.selectsField types f = false) ∧
    (∀ p, p.Only .autowire → ∃ n, negate .autowire p = .ok n ∧
      ∀ types caller j, p.selectsMethod types caller j = false ∧
        n.selectsMethod types caller j = false) ∧
    ∀ e w, e.Only .execution → w.Only .autowire → ∃ p, acrossDomains e w = .ok p ∧
      (∀ types caller j, p.selectsMethod types caller j = e.selectsMethod types caller j) ∧
      (∀ types j, p.maySelectMethod types j = e.maySelectMethod types j) ∧
      ∀ types f, p.selectsField types f = w.selectsField types f := by
  refine ⟨selectsMethod_boolean, selectsField_boolean, fun p hp => ?executions,
    fun p hp => ?fields, fun e w he hw => ?sides⟩
  case executions =>
    refine ⟨_, negate_eq_ok.mpr ⟨only_iff.mp hp, rfl⟩, fun types f => ⟨?_, ?_⟩⟩
    exacts [not_selectsField_of_isOnly (only_iff.mp hp) f, not_selectsField_of_isOnly isOnly_not f]
  case fields =>
    refine ⟨_, negate_eq_ok.mpr ⟨only_iff.mp hp, rfl⟩, fun types caller j => ⟨?_, ?_⟩⟩
    exacts [not_selectsMethod_of_only hp, not_selectsMethod_of_only (only_iff.mpr isOnly_not)]
  case sides =>
    refine ⟨_, acrossDomains_eq_ok.mpr ⟨only_iff.mp he, only_iff.mp hw, rfl⟩, ?_, ?_, ?_⟩
    exacts [fun _ _ _ => selectsMethod_divergent he, fun _ _ => maySelectMethod_divergent he,
      fun _ _ => rfl]

theorem operations_boolean_till :
    (leaf .execution (.within (.parse "shop.Till"))).Only .execution ∧
    (leaf .autowire (.target (.parse "shop.*"))).Only .autowire ∧
    (∀ types caller j, ∃ r, negate .execution (leaf .execution (.within (.parse "shop.Till"))) =
        .ok r ∧ r.selectsMethod types caller j =
          !(leaf .execution (.within (.parse "shop.Till"))).selectsMethod types caller j) ∧
    ∃ p, acrossDomains (leaf .execution (.within (.parse "shop.Till")))
        (leaf .autowire (.target (.parse "shop.*"))) = .ok p ∧
      (∀ types caller j, p.selectsMethod types caller j =
        (leaf .execution (.within (.parse "shop.Till"))).selectsMethod types caller j) ∧
      (∀ types j, p.maySelectMethod types j =
        (leaf .execution (.within (.parse "shop.Till"))).maySelectMethod types j) ∧
      ∀ types f, p.selectsField types f =
        (leaf .autowire (.target (.parse "shop.*"))).selectsField types f :=
  have he : (leaf .execution (.within (.parse "shop.Till"))).Only .execution := ⟨rfl, rfl⟩
  have hw : (leaf .autowire (.target (.parse "shop.*"))).Only .autowire := ⟨rfl, rfl⟩
  ⟨he, hw, fun types caller j => (operations_boolean.left types caller j).negate _ he,
    operations_boolean.right.right.right.right _ _ he hw⟩

end Interpose.Pointcut
