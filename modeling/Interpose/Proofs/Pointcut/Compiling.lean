import Interpose.Proofs.Pointcut.Algebra

namespace Interpose.Pointcut

open Outcome

namespace Expression

-- Designators of both domains occur.
def mixes (e : Expression) : Bool := e.mentions .execution && e.mentions .autowire

-- Only members of types are named.
def isNeutral (e : Expression) : Bool := !e.mentions .execution && !e.mentions .autowire

-- The pointcut of an expression that may be of the domain.
def inDomain (domain : Domain) : Expression → Pointcut
  | leaf d => ofDesignator domain d
  | and l r _ => .and domain (l.inDomain domain) (r.inDomain domain)
  | or l r _ => .or domain (l.inDomain domain) (r.inDomain domain)
  | not e => .not domain (e.inDomain domain)

end Expression

-- Alternatives of a domain, joined from the left.
def alternation (domain : Domain) : List Pointcut → Option Pointcut
  | [] => none
  | p :: ps => some (ps.foldl (or domain) p)

-- The alternatives that count for a domain.
def alternativesOf (domain : Domain) (es : List Expression) : List Expression :=
  if es.any (·.mentions domain) then es.filter (·.mentions domain) ++ es.filter (·.isNeutral)
  else []

def side (domain : Domain) (es : List Expression) : Option Pointcut :=
  alternation domain ((alternativesOf domain es).map (·.inDomain domain))

-- The pointcut with these sides.
def ofSides : Option Pointcut → Option Pointcut → Option Pointcut
  | some e, some w => some (divergent e w)
  | some e, none => some e
  | none, w => w

-- A pointcut is what becomes of alternatives. None of them mixes the domains.
structure MadeOf (es : List Expression) (p : Pointcut) : Prop where
  unmixed : ∀ e ∈ es, e.mixes = false
  sides   : ofSides (side .execution es) (side .autowire es) = some p

-- A pointcut and its two sides, each of its domain throughout.
structure Sided (p : Pointcut) (pe pw : Option Pointcut) : Prop where
  sides     : Sides p pe pw
  execution : ∀ e ∈ pe, e.Uniform .execution
  autowire  : ∀ w ∈ pw, w.Uniform .autowire

section Expressions

variable {domain : Domain} {e : Expression} {es : List Expression} {p : Pointcut}

theorem isNeutral_iff_domain? {d : Option Domain} (h : e.domain? = .ok d) :
    e.isNeutral = (d == none) := by
  rw [Expression.isNeutral, Expression.mentions_eq h, Expression.mentions_eq h]
  rcases d with _ | ⟨⟨⟩⟩ <;> rfl

-- Two operands have a domain in common unless one of them mixes the domains or both differ.
theorem common_isOk {l r : Expression} {position : Nat} (hl : l.domain?.isOk = !l.mixes)
    (hr : r.domain?.isOk = !r.mixes) :
    (do match ← l.domain?, ← r.domain? with
      | none, d => .ok d
      | some a, none => .ok (some a)
      | some a, some b => if a = b then .ok (some a) else .error position).isOk =
    !((l.mentions .execution || r.mentions .execution) &&
      (l.mentions .autowire || r.mentions .autowire)) := by
  cases hl' : l.domain?
  case error =>
    rw [hl', Expression.mixes] at hl
    have hm : l.mentions .execution = true ∧ l.mentions .autowire = true := by
      simpa [Except.isOk, Except.toBool] using hl
    simp [hm, bind, Except.bind, Except.isOk, Except.toBool]
  case ok a =>
    cases hr' : r.domain?
    case error =>
      rw [hr', Expression.mixes] at hr
      have hm : r.mentions .execution = true ∧ r.mentions .autowire = true := by
        simpa [Except.isOk, Except.toBool] using hr
      simp [hm, bind, Except.bind, Except.isOk, Except.toBool]
    case ok b =>
      simp only [Expression.mentions_eq hl', Expression.mentions_eq hr']
      rcases a with _ | ⟨⟨⟩⟩ <;> rcases b with _ | ⟨⟨⟩⟩ <;> rfl

-- The domain of an expression can be told unless it mixes both.
theorem domain?_isOk : e.domain?.isOk = !e.mixes := by
  induction e
  case leaf d             => cases d <;> rfl
  case not hi             => rw [Expression.domain?, hi]; simp [Expression.mixes]
  case and l r _ hl hr =>
    rw [Expression.mixes, Expression.mentions_and, Expression.mentions_and]
    exact common_isOk hl hr
  case or l r _ hl hr =>
    rw [Expression.mixes, Expression.mentions_or, Expression.mentions_or]
    exact common_isOk hl hr

theorem uniform_inDomain (h : e.mentions domain.other = false) :
    (e.inDomain domain).Uniform domain := by
  induction e
  case leaf d =>
    have hd : d.domain?.getD domain = domain := by
      rw [Expression.mentions_leaf] at h
      cases domain <;> cases d <;> simp_all [Designator.domain?, Domain.other]
    have hu := uniform_ofDesignator domain d
    rwa [hd] at hu
  case and hl hr =>
    rw [Expression.mentions_and, Bool.or_eq_false_iff] at h
    exact .and (hl h.left) (hr h.right)
  case or hl hr =>
    rw [Expression.mentions_or, Bool.or_eq_false_iff] at h
    exact .or (hl h.left) (hr h.right)
  case not hi => exact .not (hi (Expression.mentions_not ▸ h))

-- Within one domain no operation fails.
theorem ofExpression_of_not_mentions (h : e.mentions domain.other = false) :
    ofExpression domain e = .ok (e.inDomain domain) := by
  induction e
  case leaf => rfl
  case and l r _ hl hr =>
    rw [Expression.mentions_and, Bool.or_eq_false_iff] at h
    have hol := (uniform_inDomain h.left).isOnly_iff.mpr rfl
    have hor := (uniform_inDomain h.right).isOnly_iff.mpr rfl
    simp only [ofExpression, bind_eq_ok, conj_eq_ok]
    exact ⟨_, hl h.left, _, hr h.right, hol, hor, rfl⟩
  case or l r _ hl hr =>
    rw [Expression.mentions_or, Bool.or_eq_false_iff] at h
    have hol := (uniform_inDomain h.left).isOnly_iff.mpr rfl
    have hor := (uniform_inDomain h.right).isOnly_iff.mpr rfl
    simp only [ofExpression, bind_eq_ok, disj_eq_ok]
    exact ⟨_, hl h.left, _, hr h.right, hol, hor, rfl⟩
  case not e hi =>
    rw [Expression.mentions_not] at h
    simp only [ofExpression, bind_eq_ok, negate_eq_ok]
    exact ⟨_, hi h, (uniform_inDomain h).isOnly_iff.mpr rfl, rfl⟩

theorem foldlM_disj (hp : p.isOnly domain = true)
    (h : ∀ e ∈ es, e.mentions domain.other = false) :
    es.foldlM (fun p e => do disj domain p (← ofExpression domain e)) p =
      .ok ((es.map (·.inDomain domain)).foldl (or domain) p) := by
  induction es generalizing p
  case nil => rfl
  case cons e es hi =>
    obtain ⟨he, hes⟩ := List.forall_mem_cons.mp h
    refine foldlM_cons_eq_ok.mpr ⟨_, ?_, hi isOnly_or hes⟩
    simp only [bind_eq_ok, disj_eq_ok]
    have hoe := (uniform_inDomain he).isOnly_iff.mpr rfl
    exact ⟨_, ofExpression_of_not_mentions he, hp, hoe, rfl⟩

theorem ofBranches_of_not_mentions (h : ∀ e ∈ es, e.mentions domain.other = false) :
    ofBranches domain es = .ok (alternation domain (es.map (·.inDomain domain))) := by
  cases es
  case nil => rfl
  case cons e es =>
    obtain ⟨he, hes⟩ := List.forall_mem_cons.mp h
    have hoe := (uniform_inDomain he).isOnly_iff.mpr rfl
    simp only [ofBranches, bind_eq_ok, map_eq_ok]
    exact ⟨_, ofExpression_of_not_mentions he, _, foldlM_disj hoe hes, rfl⟩

end Expressions

section Alternatives

variable {text : String} {domain : Domain} {b e : Expression} {es : List Expression} {p : Pointcut}
variable {cs : List (Option Domain × Expression)}

theorem classified_of_not_mixes (h : ∀ e ∈ es, e.mixes = false) :
    ∃ cs, classified text es = .ok cs := by
  induction es
  case nil => exact ⟨[], rfl⟩
  case cons e es hi =>
    obtain ⟨he, hes⟩ := List.forall_mem_cons.mp h
    obtain ⟨cs, hcs⟩ := hi hes
    obtain ⟨d, hd⟩ := isOk_iff.mp (domain?_isOk.trans (congrArg Bool.not he))
    refine ⟨(d, e) :: cs, mapM_eq_ok.mpr (.cons ?_ (mapM_eq_ok.mp hcs))⟩
    rw [hd]
    rfl

theorem branchesOf_eq (h : ∀ c ∈ cs, c.2.domain? = .ok c.1) :
    branchesOf domain cs = alternativesOf domain (cs.map (·.2)) := by
  have hown : (cs.filter (·.1 == some domain)).map (·.2) =
      (cs.map (·.2)).filter (·.mentions domain) := by
    rw [List.filter_map]
    exact congrArg _ <| List.filter_congr fun c hc => (Expression.mentions_eq (h c hc)).symm
  have hneutral : (cs.filter (·.1 == none)).map (·.2) = (cs.map (·.2)).filter (·.isNeutral) := by
    rw [List.filter_map]
    exact congrArg _ <| List.filter_congr fun c hc => (isNeutral_iff_domain? (h c hc)).symm
  rw [branchesOf, hown, hneutral, alternativesOf]
  cases ha : (cs.map (·.2)).any (·.mentions domain)
  case true =>
    obtain ⟨e, he, hm⟩ := List.any_eq_true.mp ha
    have hne : (cs.map (·.2)).filter (·.mentions domain) ≠ [] :=
      List.ne_nil_of_mem (List.mem_filter.mpr ⟨he, hm⟩)
    simp [hne]
  case false =>
    have he : (cs.map (·.2)).filter (·.mentions domain) = [] :=
      List.filter_eq_nil_iff.mpr fun e he => by simp [List.any_eq_false.mp ha e he]
    simp [he]

-- An alternative that mixes the domains is no alternative of either.
theorem not_mentions_of_mem (h : ∀ e ∈ es, e.mixes = false) (hb : b ∈ alternativesOf domain es) :
    b.mentions domain.other = false := by
  rw [alternativesOf] at hb
  split at hb
  case isFalse => cases hb
  case isTrue =>
    rcases List.mem_append.mp hb with hb | hb <;> obtain ⟨hb, hm⟩ := List.mem_filter.mp hb
    case inl =>
      have hx := h b hb
      cases domain <;> simp_all [Expression.mixes, Domain.other]
    case inr => cases domain <;> simp_all [Expression.isNeutral, Domain.other]

theorem uniform_alternation {ps : List Pointcut} (hu : ∀ p ∈ ps, p.Uniform domain)
    (h : alternation domain ps = some p) : p.Uniform domain := by
  cases ps
  case nil => cases h
  case cons q ps =>
    cases h
    obtain ⟨hq, hps⟩ := List.forall_mem_cons.mp hu
    induction ps generalizing q
    case nil => exact hq
    case cons r ps hi =>
      obtain ⟨hr, hps⟩ := List.forall_mem_cons.mp hps
      exact hi _ (List.forall_mem_cons.mpr ⟨.or hq hr, hps⟩) (.or hq hr) hps

theorem uniform_side (h : ∀ e ∈ es, e.mixes = false) (hs : side domain es = some p) :
    p.Uniform domain := by
  refine uniform_alternation (fun q hq => ?_) hs
  obtain ⟨b, hb, rfl⟩ := List.mem_map.mp hq
  exact uniform_inDomain (not_mentions_of_mem h hb)

-- All alternatives are of one domain at most: then nothing fails.
theorem ofAlternatives_eq (h : ∀ b ∈ e.branches, b.mixes = false) : ofAlternatives text e =
    .ok (ofSides (side .execution e.branches) (side .autowire e.branches)) := by
  obtain ⟨cs, hcs⟩ : ∃ cs, classified text e.branches = .ok cs := classified_of_not_mixes h
  obtain ⟨hb, hd⟩ := classified_eq_ok hcs
  have hs : ∀ domain, ofBranches domain (branchesOf domain cs) = .ok (side domain e.branches) := by
    intro domain
    rw [branchesOf_eq hd, hb]
    exact ofBranches_of_not_mentions fun b hb => not_mentions_of_mem h hb
  simp only [ofAlternatives, bind_eq_ok]
  refine ⟨cs, hcs, _, hs .execution, _, hs .autowire, ?_⟩
  cases he : side .execution e.branches <;> cases hw : side .autowire e.branches
  case some.some =>
    simp only [map_eq_ok, acrossDomains_eq_ok]
    have hoe := (uniform_side h he).isOnly_iff.mpr rfl
    have how := (uniform_side h hw).isOnly_iff.mpr rfl
    exact ⟨_, ⟨hoe, how, rfl⟩, rfl⟩
  all_goals rfl

theorem not_mixes_of_classified (h : classified text es = .ok cs) : ∀ e ∈ es, e.mixes = false := by
  obtain ⟨rfl, hd⟩ := classified_eq_ok h
  intro e he
  obtain ⟨c, hc, rfl⟩ := List.mem_map.mp he
  have ho := domain?_isOk (e := c.2)
  rw [hd c hc] at ho
  simpa [Except.isOk, Except.toBool] using ho

-- A text is read as a pointcut just if no alternative of its expression mixes the domains and at
-- least one has a domain.
theorem parse_eq_ok :
    parse text = .ok p ↔ ∃ e, Expression.parse text = .ok e ∧ MadeOf e.branches p := by
  constructor
  case mp =>
    intro h
    simp only [parse, bind_eq_ok] at h
    obtain ⟨e, he, r, hr, h⟩ := h
    have hr := eq_ok_of_mapError hr
    obtain ⟨cs, hcs, _⟩ := bind_eq_ok.mp hr
    have hm := not_mixes_of_classified hcs
    cases r
    case none => cases h
    case some q =>
      cases pure_eq_ok.mp h
      rw [ofAlternatives_eq hm] at hr
      exact ⟨e, eq_ok_of_mapError he, hm, Except.ok.inj hr⟩
  case mpr =>
    rintro ⟨e, he, hm, hs⟩
    simp only [parse, bind_eq_ok]
    refine ⟨e, by rw [he]; rfl, some p, ?_, rfl⟩
    rw [ofAlternatives_eq hm, hs]
    rfl

theorem Sided.constructible {pe pw : Option Pointcut} (h : Sided p pe pw) : Constructible p := by
  have he := h.execution
  have hw := h.autowire
  cases h.sides
  case both e w  => exact constructible_iff.mpr (.inr ⟨e, w, rfl, he e rfl, hw w rfl⟩)
  case execution => exact (he p rfl).constructible
  case autowire  => exact (hw p rfl).constructible

theorem MadeOf.sided (h : MadeOf es p) : Sided p (side .execution es) (side .autowire es) where
  sides := by
    have hs := h.sides
    revert hs
    cases side .execution es <;> cases side .autowire es <;> rintro ⟨⟩
    case none.some => exact .autowire p
    case some.none => exact .execution p
    case some.some => exact .both _ _
  execution _ he := uniform_side h.unmixed he
  autowire _ hw := uniform_side h.unmixed hw

end Alternatives

section Readings

variable {domain : Domain} {es fs : List Expression} {b : Expression}
variable {reading : Pointcut → Bool}

theorem any_alternation (hr : ∀ p q, reading (or domain p q) = (reading p || reading q))
    (ps : List Pointcut) : (alternation domain ps).any reading = ps.any reading := by
  cases ps
  case nil => rfl
  case cons p ps =>
    rw [alternation, Option.any_some]
    induction ps generalizing p
    case nil => simp
    case cons q ps hi => rw [List.foldl_cons, hi, List.any_cons, List.any_cons, List.any_cons, hr,
      Bool.or_assoc]

theorem mem_alternativesOf : b ∈ alternativesOf domain es ↔
    (b ∈ es ∧ (b.mentions domain = true ∨ b.isNeutral = true)) ∧
      ∃ a ∈ es, a.mentions domain = true := by
  rw [alternativesOf]
  split
  case isTrue h =>
    simp only [List.any_eq_true] at h
    simp [h, and_or_left]
  case isFalse h =>
    simp only [List.any_eq_true] at h
    simp [h]

end Readings

end Interpose.Pointcut
