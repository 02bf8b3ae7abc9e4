import Interpose.Pointcut.Meaning
import Interpose.Proofs.Outcome
import Interpose.Proofs.Pointcut.Matching

namespace Interpose.Pointcut

open Outcome

def Domain.other : Domain → Domain
  | execution => autowire
  | autowire => execution

namespace Expression

variable {e : Expression} {domain : Domain}

-- The boolean reading of an expression, over the truth of its designators.
def holds (truth : Designator → Bool) : Expression → Bool
  | leaf d => truth d
  | and l r _ => l.holds truth && r.holds truth
  | or l r _ => l.holds truth || r.holds truth
  | not e => !e.holds truth

-- Some designator of the expression is of the domain.
def mentions (domain : Domain) (e : Expression) : Bool :=
  e.leaves.any fun d => d.domain? == some domain

@[simp]
theorem mentions_leaf {d : Designator} :
    (leaf d).mentions domain = (d.domain? == some domain) := by
  simp [mentions, leaves]

@[simp]
theorem mentions_and {l r : Expression} {position : Nat} :
    (and l r position).mentions domain = (l.mentions domain || r.mentions domain) := by
  simp [mentions, leaves]

@[simp]
theorem mentions_or {l r : Expression} {position : Nat} :
    (or l r position).mentions domain = (l.mentions domain || r.mentions domain) := by
  simp [mentions, leaves]

@[simp]
theorem mentions_not : (not e).mentions domain = e.mentions domain := by
  simp [mentions, leaves]

-- What two operands have in common if they do not mix the domains.
theorem mentions_of_common {a b d : Option Domain} {position : Nat}
    (h : (match a, b with
      | none, d => .ok d
      | some a, none => .ok (some a)
      | some a, some b => if a = b then .ok (some a) else .error position) = Except.ok d) :
    (a == some domain || b == some domain) = (d == some domain) := by
  cases a <;> cases b <;> simp only at h
  case some.some a b =>
    split at h
    case isTrue hab => cases h; simp [hab]
    case isFalse    => cases h
  all_goals cases h; simp

theorem mentions_eq {d : Option Domain} (h : e.domain? = .ok d) :
    e.mentions domain = (d == some domain) := by
  induction e generalizing d
  case leaf => cases h; exact mentions_leaf
  case not hi => exact mentions_not ▸ hi h
  case and l r _ hl hr =>
    obtain ⟨a, ha, h⟩ := bind_eq_ok.mp h
    obtain ⟨b, hb, h⟩ := bind_eq_ok.mp h
    rw [mentions_and, hl ha, hr hb]
    exact mentions_of_common h
  case or l r _ hl hr =>
    obtain ⟨a, ha, h⟩ := bind_eq_ok.mp h
    obtain ⟨b, hb, h⟩ := bind_eq_ok.mp h
    rw [mentions_or, hl ha, hr hb]
    exact mentions_of_common h

end Expression

section Combinators

variable {domain : Domain} {p q r : Pointcut}

theorem require_eq_ok {operation : Operation} {u : Unit} :
    require operation domain p = .ok u ↔ p.isOnly domain = true := by
  simp [require]

theorem conj_eq_ok :
    conj domain p q = .ok r ↔ p.isOnly domain = true ∧ q.isOnly domain = true ∧ and domain p q = r := by
  simp [conj, require_eq_ok]

theorem disj_eq_ok :
    disj domain p q = .ok r ↔ p.isOnly domain = true ∧ q.isOnly domain = true ∧ or domain p q = r := by
  simp [disj, require_eq_ok]

theorem negate_eq_ok : negate domain p = .ok r ↔ p.isOnly domain = true ∧ not domain p = r := by
  simp [negate, require_eq_ok]

theorem acrossDomains_eq_ok : acrossDomains p q = .ok r ↔
    p.isOnly .execution = true ∧ q.isOnly .autowire = true ∧ divergent p q = r := by
  simp [acrossDomains, require_eq_ok]

-- What the connectives of one domain make is of this domain only.
@[simp]
theorem isOnly_and : (and domain p q).isOnly domain = true := by
  cases domain <;> rfl

@[simp]
theorem isOnly_or : (or domain p q).isOnly domain = true := by
  cases domain <;> rfl

@[simp]
theorem isOnly_not : (not domain p).isOnly domain = true := by
  cases domain <;> rfl

end Combinators

-- A way to read pointcuts that takes their connectives for those of booleans.
structure Reads (domain : Domain) (reading : Pointcut → Bool) : Prop where
  and : ∀ p q, reading (and domain p q) = (reading p && reading q)
  or  : ∀ p q, reading (or domain p q) = (reading p || reading q)
  not : ∀ p, reading (not domain p) = !reading p

section Readings

variable {domain : Domain} {e : Expression} {p q : Pointcut} {es : List Expression}
variable {reading : Pointcut → Bool} {truth : Designator → Bool}

theorem holds_reads (truth : Designator → Bool) : Reads domain (holds truth) :=
  ⟨fun _ _ => rfl, fun _ _ => rfl, fun _ => rfl⟩

theorem selectsField_reads (types : Hierarchy) (j : FieldJoint) :
    Reads .autowire (selectsField types j) := by
  constructor <;> simp [selectsField]

-- A designator that is not of the domain of fields selects none, so the flag at the leaf of a
-- pointcut adds nothing to it.
theorem selectsField_ofDesignator (types : Hierarchy) (j : FieldJoint) (d : Designator) :
    (ofDesignator .autowire d).selectsField types j = d.selectsField types j := by
  cases d <;> simp [ofDesignator, selectsField, Designator.domain?, Designator.selectsField]

theorem Reads.ofExpression (hr : Reads domain reading)
    (hd : ∀ d, reading (ofDesignator domain d) = truth d) (h : ofExpression domain e = .ok p) :
    reading p = e.holds truth := by
  induction e generalizing p
  case leaf d => cases h; exact hd d
  case and l r _ hl hr' =>
    simp only [Pointcut.ofExpression, bind_eq_ok, conj_eq_ok] at h
    obtain ⟨a, ha, b, hb, _, _, rfl⟩ := h
    rw [hr.and, hl ha, hr' hb, Expression.holds]
  case or l r _ hl hr' =>
    simp only [Pointcut.ofExpression, bind_eq_ok, disj_eq_ok] at h
    obtain ⟨a, ha, b, hb, _, _, rfl⟩ := h
    rw [hr.or, hl ha, hr' hb, Expression.holds]
  case not hi =>
    simp only [Pointcut.ofExpression, bind_eq_ok, negate_eq_ok] at h
    obtain ⟨a, ha, _, rfl⟩ := h
    rw [hr.not, hi ha, Expression.holds]

-- A reading carries over from the alternatives to what they are joined to.
theorem Reads.foldlM (hr : Reads domain reading)
    (hd : ∀ d, reading (ofDesignator domain d) = truth d)
    (h : es.foldlM (fun p e => do disj domain p (← Pointcut.ofExpression domain e)) p = .ok q) :
    reading q = (reading p || es.any (·.holds truth)) := by
  induction es generalizing p
  case nil => cases pure_eq_ok.mp h; simp
  case cons e es hi =>
    obtain ⟨p', h', h⟩ := foldlM_cons_eq_ok.mp h
    simp only [bind_eq_ok, disj_eq_ok] at h'
    obtain ⟨a, ha, _, _, rfl⟩ := h'
    rw [hi h, hr.or, hr.ofExpression hd ha, List.any_cons, Bool.or_assoc]

theorem Reads.ofBranches {r : Option Pointcut} (hr : Reads domain reading)
    (hd : ∀ d, reading (ofDesignator domain d) = truth d) (h : ofBranches domain es = .ok r) :
    r.any reading = es.any (·.holds truth) := by
  cases es
  case nil => cases h; rfl
  case cons e es =>
    simp only [Pointcut.ofBranches, bind_eq_ok, map_eq_ok] at h
    obtain ⟨a, ha, q, hq, rfl⟩ := h
    rw [Option.any_some, hr.foldlM hd hq, hr.ofExpression hd ha, List.any_cons]

-- An expression without designators of the other domain becomes a pointcut of the one domain.
theorem isOnly_ofExpression (he : e.mentions domain.other = false)
    (h : ofExpression domain e = .ok p) : p.isOnly domain = true := by
  cases e
  case leaf d =>
    cases h
    cases domain <;> cases d <;>
      simp_all [Designator.domain?, Domain.other, ofDesignator, isOnly, isExecution, isAutowire,
        crossesDomains]
  case and l r _ =>
    simp only [ofExpression, bind_eq_ok, conj_eq_ok] at h
    obtain ⟨a, _, b, _, _, _, rfl⟩ := h
    exact isOnly_and
  case or l r _ =>
    simp only [ofExpression, bind_eq_ok, disj_eq_ok] at h
    obtain ⟨a, _, b, _, _, _, rfl⟩ := h
    exact isOnly_or
  case not =>
    simp only [ofExpression, bind_eq_ok, negate_eq_ok] at h
    obtain ⟨a, _, _, rfl⟩ := h
    exact isOnly_not

theorem isOnly_foldlM (hp : p.isOnly domain = true)
    (h : es.foldlM (fun p e => do disj domain p (← ofExpression domain e)) p = .ok q) :
    q.isOnly domain = true := by
  induction es generalizing p
  case nil => exact pure_eq_ok.mp h ▸ hp
  case cons e es hi =>
    obtain ⟨p', h', h⟩ := foldlM_cons_eq_ok.mp h
    simp only [bind_eq_ok, disj_eq_ok] at h'
    obtain ⟨a, _, _, _, rfl⟩ := h'
    exact hi isOnly_or h

theorem isOnly_ofBranches (he : ∀ e ∈ es, e.mentions domain.other = false)
    (h : ofBranches domain es = .ok (some p)) : p.isOnly domain = true := by
  cases es
  case nil => cases h
  case cons e es =>
    simp only [ofBranches, bind_eq_ok, map_eq_ok, Option.some.injEq] at h
    obtain ⟨a, ha, q, hq, rfl⟩ := h
    have hf := isOnly_ofExpression (he e List.mem_cons_self) ha
    exact isOnly_foldlM hf hq

end Readings

section Branches

variable {text : String} {domain : Domain} {e : Expression}
variable {es : List Expression} {cs : List (Option Domain × Expression)}

theorem classified_eq_ok (h : classified text es = .ok cs) :
    cs.map (·.2) = es ∧ ∀ c ∈ cs, c.2.domain? = .ok c.1 := by
  replace h := mapM_eq_ok.mp h
  induction h
  case nil => simp
  case cons e c es cs hc _ hi =>
    have hc := eq_ok_of_mapError hc
    cases hd : e.domain? <;> simp only [hd, Except.map] at hc <;> cases hc
    exact ⟨by simp [hi.left], by simpa [hd] using hi.right⟩

-- The neutral alternatives are among those of a domain as soon as the domain occurs at all.
theorem mem_branchesOf (domain : Domain) (h : ∀ c ∈ cs, c.2.domain? = .ok c.1) :
    e ∈ branchesOf domain cs ↔
      (e ∈ cs.map (·.2) ∧ e.mentions domain.other = false) ∧
        ∃ b ∈ cs.map (·.2), b.mentions domain = true := by
  have hm : ∀ c ∈ cs, ∀ d, c.2.mentions d = (c.1 == some d) :=
    fun c hc d => Expression.mentions_eq (h c hc)
  have hn : (∃ b ∈ cs.map (·.2), b.mentions domain = true) ↔ ∃ c ∈ cs, c.1 = some domain := by
    simp only [List.mem_map, exists_exists_and_eq_and]
    exact exists_congr fun c => and_congr_right fun hc => by simp [hm c hc]
  rw [hn]
  simp only [branchesOf, List.isEmpty_iff, List.map_eq_nil_iff, List.filter_eq_nil_iff, beq_iff_eq]
  split
  case isTrue hno => simpa using fun _ _ _ b hb => hno (some domain, b) hb rfl
  case isFalse hno =>
    push Not at hno
    simp only [hno, and_true, List.mem_append, List.mem_map, List.mem_filter, beq_iff_eq]
    constructor
    case mp =>
      rintro (⟨c, ⟨hc, hd⟩, rfl⟩ | ⟨c, ⟨hc, hd⟩, rfl⟩)
      all_goals exact ⟨⟨c, hc, rfl⟩, by rw [hm c hc, hd]; cases domain <;> rfl⟩
    case mpr =>
      rintro ⟨⟨c, hc, rfl⟩, ho⟩
      rw [hm c hc] at ho
      cases hd : c.1
      case none => exact .inr ⟨c, ⟨hc, hd⟩, rfl⟩
      case some d =>
        refine .inl ⟨c, ⟨hc, ?_⟩, rfl⟩
        cases d <;> cases domain <;> simp_all [Domain.other]

end Branches

-- A pointcut and its two sides, of which one may be missing.
inductive Sides : Pointcut → Option Pointcut → Option Pointcut → Prop
  | both (e w : Pointcut) : Sides (divergent e w) (some e) (some w)
  | execution (e : Pointcut) : Sides e (some e) none
  | autowire (w : Pointcut) : Sides w none (some w)

section Sides

variable {types : Hierarchy} {p : Pointcut} {pe pw : Option Pointcut}

theorem isExecution_of_isOnly (h : p.isOnly .execution = true) : p.isExecution = true := by
  cases p <;> simp_all [isOnly]

theorem not_isExecution_of_isOnly (h : p.isOnly .autowire = true) : p.isExecution = false := by
  cases p <;> simp_all [isOnly]

theorem not_selectsField_of_isOnly (h : p.isOnly .execution = true) (j : FieldJoint) :
    p.selectsField types j = false := by
  cases p <;> simp_all [isOnly, isAutowire, selectsField, crossesDomains]

theorem Sides.selectsMethod (h : Sides p pe pw) (he : ∀ e ∈ pe, e.isOnly .execution = true)
    (hw : ∀ w ∈ pw, w.isOnly .autowire = true) (caller : Option String) (j : MethodJoint) :
    p.selectsMethod types caller j = pe.any (·.holds (Designator.selectsMethod types caller j)) := by
  rw [selectsMethod_eq]
  cases h
  case both => rfl
  case execution =>
    rw [isExecution_of_isOnly (he p rfl)]
    rfl
  case autowire =>
    rw [not_isExecution_of_isOnly (hw p rfl)]
    rfl

theorem Sides.selectsField (h : Sides p pe pw) (he : ∀ e ∈ pe, e.isOnly .execution = true)
    (j : FieldJoint) : p.selectsField types j = pw.any (·.selectsField types j) := by
  cases h
  case both => rfl
  case autowire => rfl
  case execution => exact not_selectsField_of_isOnly (he p rfl) j

theorem ofAlternatives_eq_ok {text : String} {e : Expression}
    (h : ofAlternatives text e = .ok (some p)) :
    ∃ cs pe pw, classified text e.branches = .ok cs ∧
      ofBranches .execution (branchesOf .execution cs) = .ok pe ∧
      ofBranches .autowire (branchesOf .autowire cs) = .ok pw ∧ Sides p pe pw := by
  simp only [ofAlternatives, bind_eq_ok] at h
  obtain ⟨cs, hcs, pe, hpe, pw, hpw, h⟩ := h
  refine ⟨cs, pe, pw, hcs, hpe, hpw, ?_⟩
  cases pe <;> cases pw
  case some.some =>
    simp only [map_eq_ok, acrossDomains_eq_ok, Option.some.injEq] at h
    obtain ⟨_, ⟨_, _, rfl⟩, rfl⟩ := h
    exact .both _ _
  all_goals cases pure_eq_ok.mp h
  case some.none => exact .execution _
  case none.some => exact .autowire _

end Sides

-- An alternative counts for methods unless it speaks of fields, and for fields unless it speaks
-- of methods; but neither side is there at all unless some alternative brings it in.
theorem parse_meaning {text : String} {p : Pointcut} (h : parse text = .ok p) :
    ∃ e, Expression.parse text = .ok e ∧
      (∀ types caller j, p.selectsMethod types caller j = true ↔
        (∃ b ∈ e.branches, b.mentions .autowire = false ∧
          b.holds (Designator.selectsMethod types caller j) = true) ∧
        ∃ b ∈ e.branches, b.mentions .execution = true) ∧
      (∀ types j, p.selectsField types j = true ↔
        (∃ b ∈ e.branches, b.mentions .execution = false ∧
          b.holds (Designator.selectsField types j) = true) ∧
        ∃ b ∈ e.branches, b.mentions .autowire = true) := by
  simp only [parse, bind_eq_ok] at h
  obtain ⟨e, he, r, hr, h⟩ := h
  cases r
  case none => cases h
  case some q =>
    cases pure_eq_ok.mp h
    obtain ⟨cs, pe, pw, hcs, hpe, hpw, hs⟩ := ofAlternatives_eq_ok (eq_ok_of_mapError hr)
    obtain ⟨hb, hcs⟩ := classified_eq_ok hcs
    have hme := fun b => mem_branchesOf (e := b) .execution hcs
    have hmw := fun b => mem_branchesOf (e := b) .autowire hcs
    have hoe : ∀ a ∈ pe, a.isOnly .execution = true := by
      rintro a rfl
      exact isOnly_ofBranches (fun b hb => ((hme b).mp hb).left.right) hpe
    have how : ∀ a ∈ pw, a.isOnly .autowire = true := by
      rintro a rfl
      exact isOnly_ofBranches (fun b hb => ((hmw b).mp hb).left.right) hpw
    refine ⟨e, eq_ok_of_mapError he, fun types caller j => ?methods, fun types j => ?fields⟩
    case methods =>
      have hr := (holds_reads (Designator.selectsMethod types caller j)).ofBranches
        (fun _ => rfl) hpe
      rw [hs.selectsMethod hoe how, hr, List.any_eq_true]
      simp only [hme, hb, Domain.other]
      tauto
    case fields =>
      have hr := (selectsField_reads types j).ofBranches (selectsField_ofDesignator types j) hpw
      rw [hs.selectsField hoe, hr, List.any_eq_true]
      simp only [hmw, hb, Domain.other]
      tauto

-- The neutral alternative at the end counts on both sides.
theorem parse_meaning_divergent :
    ∃ p, parse "execution(* save(..)) && !within(a.B) || autowire(*) || target(a.C)" = .ok p ∧
    ∃ e, Expression.parse "execution(* save(..)) && !within(a.B) || autowire(*) || target(a.C)" =
        .ok e ∧
      (∀ types caller j, p.selectsMethod types caller j = true ↔
        (∃ b ∈ e.branches, b.mentions .autowire = false ∧
          b.holds (Designator.selectsMethod types caller j) = true) ∧
        ∃ b ∈ e.branches, b.mentions .execution = true) ∧
      (∀ types j, p.selectsField types j = true ↔
        (∃ b ∈ e.branches, b.mentions .execution = false ∧
          b.holds (Designator.selectsField types j) = true) ∧
        ∃ b ∈ e.branches, b.mentions .autowire = true) := by
  have ho : (parse "execution(* save(..)) && !within(a.B) || autowire(*) || target(a.C)").isOk := by
    decide +kernel
  obtain ⟨p, h⟩ := isOk_iff.mp ho
  exact ⟨p, h, parse_meaning h⟩

end Interpose.Pointcut
