import Interpose.Proofs.Pointcut.Shown

namespace Interpose.Pointcut

open Outcome

-- The designators of the domains.
inductive Designator.SpeaksOf : Domain → Designator → Prop
  | execution (p : MethodPattern)         : SpeaksOf .execution (.execution p)
  | within (p : TypePattern)              : SpeaksOf .execution (.within p)
  | annotatedWithin (p : TypePattern)     : SpeaksOf .execution (.annotatedWithin p)
  | annotatedExecution (p : TypePattern)  : SpeaksOf .execution (.annotatedExecution p)
  | autowire (p : FieldPattern)           : SpeaksOf .autowire (.autowire p)
  | annotatedAutowire (p : TypePattern)   : SpeaksOf .autowire (.annotatedAutowire p)

-- The designators of no domain.
inductive Designator.NamesMembers : Designator → Prop
  | target (p : TypePattern)          : NamesMembers (.target p)
  | annotatedTarget (p : TypePattern) : NamesMembers (.annotatedTarget p)

namespace Expression

def SpeaksOf (domain : Domain) (e : Expression) : Prop :=
  ∃ d ∈ e.leaves, d.SpeaksOf domain

def NamesMembers (e : Expression) : Prop :=
  ∀ d ∈ e.leaves, d.NamesMembers

end Expression

section Domains

variable {domain : Domain} {d : Designator} {e : Expression}

theorem Designator.speaksOf_iff : d.SpeaksOf domain ↔ d.domain? = some domain := by
  constructor
  case mp  => rintro ⟨⟩ <;> rfl
  case mpr =>
    intro h
    cases d <;> cases h <;> constructor

theorem Designator.namesMembers_iff : d.NamesMembers ↔ d.domain? = none := by
  constructor
  case mp  => rintro ⟨⟩ <;> rfl
  case mpr =>
    intro h
    cases d <;> cases h <;> constructor

namespace Expression

theorem mentions_iff : e.mentions domain = true ↔ e.SpeaksOf domain := by
  simp only [mentions, SpeaksOf, List.any_eq_true, beq_iff_eq, Designator.speaksOf_iff]

theorem mixes_iff : e.mixes = true ↔ e.SpeaksOf .execution ∧ e.SpeaksOf .autowire := by
  rw [mixes, Bool.and_eq_true, mentions_iff, mentions_iff]

theorem namesMembers_iff : e.NamesMembers ↔ ∀ domain, e.mentions domain = false := by
  simp only [NamesMembers, Designator.namesMembers_iff, mentions, List.any_eq_false, beq_iff_eq]
  constructor
  case mp =>
    intro h domain d hd hs
    cases (h d hd).symm.trans hs
  case mpr => exact fun h d hd => Option.eq_none_iff_forall_ne_some.mpr fun domain => h domain d hd

-- What is in the expression is in one of its alternatives.
theorem any_mentions_branches : e.branches.any (·.mentions domain) = e.mentions domain := by
  rw [mentions, leaves_eq_flatMap, List.any_flatMap]
  rfl

end Expression
end Domains

-- What becomes of a text that is an expression. Nothing else is wrong with it than that the domains
-- are mixed in an alternative or that there is no domain.
structure Judged (text : String) (e : Expression) (outcome : Except ReadError Pointcut) : Prop where
  crosscut    : (∃ c, outcome = .error (.crosscut c)) ↔
    ∃ b ∈ e.branches, b.SpeaksOf .execution ∧ b.SpeaksOf .autowire
  mixed       : ∀ c, outcome = .error (.crosscut c) → ∃ position, c = .mixed text position
  syntactic   : (∃ s, outcome = .error (.syntactic s)) ↔ e.NamesMembers
  noDomain    : ∀ s, outcome = .error (.syntactic s) → s = ⟨text, .noDomain, 0⟩
  ok          : (∃ p, outcome = .ok p) ↔
    (¬∃ b ∈ e.branches, b.SpeaksOf .execution ∧ b.SpeaksOf .autowire) ∧ ¬e.NamesMembers
  divergent   : ∀ p, outcome = .ok p →
    (p.crossesDomains = true ↔ e.SpeaksOf .execution ∧ e.SpeaksOf .autowire)
  isExecution : ∀ p, outcome = .ok p → (p.isExecution = true ↔ e.SpeaksOf .execution)
  isAutowire  : ∀ p, outcome = .ok p → (p.isAutowire = true ↔ e.SpeaksOf .autowire)

-- No operation fails on the alternatives once the domain of each is known: not within one of them,
-- not between those of a domain, and not across the domains.
structure Composes (branches : List (Option Domain × Expression)) : Prop where
  within : ∀ domain, ∀ b ∈ branchesOf domain branches, ∃ p, ofExpression domain b = .ok p
  joined : ∀ domain, ∃ p, ofBranches domain (branchesOf domain branches) = .ok p
  across : ∀ p q, ofBranches .execution (branchesOf .execution branches) = .ok (some p) →
    ofBranches .autowire (branchesOf .autowire branches) = .ok (some q) →
      acrossDomains p q = .ok (divergent p q)

section Outcomes

variable {text : String} {e : Expression} {es : List Expression} {p : Pointcut}
variable {cs : List (Option Domain × Expression)}

-- What an alternative is refused for is that it mixes the domains.
theorem classified_eq_error {c : Crosscut} (h : classified text es = .error c) :
    ∃ b ∈ es, b.mixes = true ∧ ∃ position, c = .mixed text position := by
  have ⟨b, hb, hc⟩ := mapM_eq_error h
  have ho : b.domain?.isOk = !b.mixes := domain?_isOk
  cases hd : b.domain? <;> rw [hd] at hc ho
  case ok => cases hc
  case error position =>
    cases hc
    exact ⟨b, hb, (Bool.not_eq_false' ..).mp ho.symm, position, rfl⟩

theorem classified_composes (h : classified text es = .ok cs) : Composes cs := by
  have hm := not_mixes_of_classified h
  have ⟨he, hd⟩ := classified_eq_ok h
  have hn : ∀ domain, ∀ b ∈ branchesOf domain cs, b.mentions domain.other = false := by
    intro domain b hb
    rw [branchesOf_eq hd, he] at hb
    exact not_mentions_of_mem hm hb
  have hs : ∀ domain, ofBranches domain (branchesOf domain cs) = .ok (side domain es) := by
    intro domain
    rw [ofBranches_of_not_mentions (hn domain), branchesOf_eq hd, he, side]
  constructor
  case within => exact fun domain b hb => ⟨_, ofExpression_of_not_mentions (hn domain b hb)⟩
  case joined => exact fun domain => ⟨_, hs domain⟩
  case across =>
    intro p q hp hq
    have hp := uniform_side hm (Except.ok.inj ((hs .execution).symm.trans hp))
    have hq := uniform_side hm (Except.ok.inj ((hs .autowire).symm.trans hq))
    exact acrossDomains_eq_ok.mpr ⟨hp.isOnly_iff.mpr rfl, hq.isOnly_iff.mpr rfl, rfl⟩

theorem isSome_sides : (ofSides (side .execution e.branches) (side .autowire e.branches)).isSome =
    (e.mentions .execution || e.mentions .autowire) := by
  rw [isSome_ofSides, any_side, any_side, Expression.any_mentions_branches,
    Expression.any_mentions_branches]

-- An expression without a domain has no alternative that mixes two.
theorem Expression.NamesMembers.not_mixes (h : e.NamesMembers) :
    ∀ b ∈ e.branches, b.mixes = false := by
  intro b hb
  have hm : b.mentions .execution = false := by
    have hd := Expression.namesMembers_iff.mp h .execution
    rw [← Expression.any_mentions_branches] at hd
    exact Bool.not_eq_true _ ▸ List.any_eq_false.mp hd b hb
  rw [Expression.mixes, hm, Bool.false_and]

theorem parse_of_mixes (he : Expression.parse text = .ok e) (h : ∃ b ∈ e.branches, b.mixes = true) :
    ∃ position, parse text = .error (.crosscut (.mixed text position)) := by
  have ⟨b, hb, hm⟩ := h
  cases hc : classified text e.branches
  case ok cs => cases (not_mixes_of_classified hc b hb).symm.trans hm
  case error c =>
    have ⟨_, _, _, position, hp⟩ := classified_eq_error hc
    refine ⟨position, ?_⟩
    simp only [parse, he, ofAlternatives, hc, hp, bind, Except.bind, Except.mapError]

theorem parse_of_namesMembers (he : Expression.parse text = .ok e) (h : e.NamesMembers) :
    parse text = .error (.syntactic ⟨text, .noDomain, 0⟩) := by
  have hs : ofSides (side .execution e.branches) (side .autowire e.branches) = none := by
    have hd := Expression.namesMembers_iff.mp h
    rw [← Option.not_isSome_iff_eq_none, isSome_sides, hd, hd]
    exact Bool.false_ne_true
  simp only [parse, he, ofAlternatives_eq h.not_mixes, hs, bind, Except.bind, Except.mapError]
  rfl

-- All other expressions are made into pointcuts.
theorem exists_madeOf (hm : ∀ b ∈ e.branches, b.mixes = false) (hn : ¬e.NamesMembers) :
    ∃ p, MadeOf e.branches p := by
  have hs : (ofSides (side .execution e.branches) (side .autowire e.branches)).isSome = true := by
    rw [isSome_sides, Bool.or_eq_true, ← Bool.not_eq_false, ← Bool.not_eq_false,
      ← Decidable.not_and_iff_not_or_not]
    exact fun hd => hn <| Expression.namesMembers_iff.mpr fun domain =>
      match domain with
      | .execution => hd.left
      | .autowire  => hd.right
  have ⟨p, hp⟩ := Option.isSome_iff_exists.mp hs
  exact ⟨p, hm, hp⟩

namespace MadeOf

theorem isExecution_iff (h : MadeOf e.branches p) :
    p.isExecution = true ↔ e.SpeaksOf .execution := by
  rw [h.sided.isExecution, any_side, Expression.any_mentions_branches, Expression.mentions_iff]

theorem isAutowire_iff (h : MadeOf e.branches p) : p.isAutowire = true ↔ e.SpeaksOf .autowire := by
  rw [h.sided.isAutowire, any_side, Expression.any_mentions_branches, Expression.mentions_iff]

end MadeOf
end Outcomes

namespace Judged

variable {text : String} {e : Expression} {outcome : Except ReadError Pointcut}

theorem of_mixes {position : Nat} (h : outcome = .error (.crosscut (.mixed text position)))
    (hm : ∃ b ∈ e.branches, b.mixes = true) : Judged text e outcome := by
  subst h
  have hs : ∃ b ∈ e.branches, b.SpeaksOf .execution ∧ b.SpeaksOf .autowire := by
    simpa only [Expression.mixes_iff] using hm
  have hn : ¬e.NamesMembers := fun hn =>
    have ⟨b, hb, hm⟩ := hm
    Bool.false_ne_true ((hn.not_mixes b hb).symm.trans hm)
  constructor
  case crosscut => exact iff_of_true ⟨_, rfl⟩ hs
  case mixed => rintro _ ⟨⟩; exact ⟨position, rfl⟩
  case syntactic => exact iff_of_false nofun hn
  case ok => exact iff_of_false nofun fun h => h.left hs
  all_goals exact nofun

theorem of_namesMembers (h : outcome = .error (.syntactic ⟨text, .noDomain, 0⟩))
    (hn : e.NamesMembers) : Judged text e outcome := by
  subst h
  have hs : ¬∃ b ∈ e.branches, b.SpeaksOf .execution ∧ b.SpeaksOf .autowire := by
    simpa only [← Expression.mixes_iff, not_exists, not_and, Bool.not_eq_true] using hn.not_mixes
  constructor
  case crosscut => exact iff_of_false nofun hs
  case syntactic => exact iff_of_true ⟨_, rfl⟩ hn
  case noDomain => rintro _ ⟨⟩; rfl
  case ok => exact iff_of_false nofun fun h => h.right hn
  all_goals exact nofun

theorem of_madeOf {p : Pointcut} (h : outcome = .ok p) (hp : MadeOf e.branches p) :
    Judged text e outcome := by
  subst h
  have hs : ¬∃ b ∈ e.branches, b.SpeaksOf .execution ∧ b.SpeaksOf .autowire := by
    simpa only [← Expression.mixes_iff, not_exists, not_and, Bool.not_eq_true] using hp.unmixed
  have hn : ¬e.NamesMembers := by
    intro hn
    have hd := isExecution_or_isAutowire p
    rw [hp.sided.isExecution, hp.sided.isAutowire, ← isSome_ofSides, isSome_sides,
      Expression.namesMembers_iff.mp hn, Expression.namesMembers_iff.mp hn] at hd
    cases hd
  constructor
  case crosscut => exact iff_of_false nofun hs
  case syntactic => exact iff_of_false nofun hn
  case ok => exact iff_of_true ⟨p, rfl⟩ ⟨hs, hn⟩
  case divergent =>
    rintro _ ⟨⟩
    rw [crossesDomains_eq, Bool.and_eq_true, hp.isExecution_iff, hp.isAutowire_iff]
  case isExecution => rintro _ ⟨⟩; exact hp.isExecution_iff
  case isAutowire => rintro _ ⟨⟩; exact hp.isAutowire_iff
  all_goals exact nofun

end Judged

-- A text that is an expression is refused for an alternative that mixes the domains, or else for
-- having no domain, and is a pointcut of its domains otherwise. No operation ever fails once the
-- domains of the alternatives are known.
theorem parse_outcome {text : String} {e : Expression} (h : Expression.parse text = .ok e) :
    Judged text e (parse text) ∧ ∀ cs, classified text e.branches = .ok cs → Composes cs := by
  refine ⟨?_, fun cs => classified_composes⟩
  by_cases hm : ∃ b ∈ e.branches, b.mixes = true
  case pos =>
    have ⟨_, hp⟩ := parse_of_mixes h hm
    exact .of_mixes hp hm
  case neg =>
    simp only [not_exists, not_and, Bool.not_eq_true] at hm
    by_cases hn : e.NamesMembers
    case pos => exact .of_namesMembers (parse_of_namesMembers h hn) hn
    case neg =>
      have ⟨p, hp⟩ := exists_madeOf hm hn
      exact .of_madeOf (parse_eq_ok.mpr ⟨e, h, hp⟩) hp

theorem parse_outcome_negated :
    ∃ e, Expression.parse "!(within(a.B) && target(a.C)) || (autowire(*) || @target(a.D))" = .ok e ∧
      Judged "!(within(a.B) && target(a.C)) || (autowire(*) || @target(a.D))" e
        (parse "!(within(a.B) && target(a.C)) || (autowire(*) || @target(a.D))") ∧
      ∀ cs, classified "!(within(a.B) && target(a.C)) || (autowire(*) || @target(a.D))" e.branches =
        .ok cs → Composes cs := by
  have ho : (Expression.parse
      "!(within(a.B) && target(a.C)) || (autowire(*) || @target(a.D))").isOk := by
    decide +kernel
  have ⟨e, h⟩ := isOk_iff.mp ho
  exact ⟨e, h, parse_outcome h⟩

-- Alternatives under a negation are not at the top.
example : parse "within(a.B) || !(within(a.B) || autowire(*))" =
    .error (.crosscut (.mixed "within(a.B) || !(within(a.B) || autowire(*))" 29)) := by
  decide +kernel

end Interpose.Pointcut
