import Mathlib.Data.List.Flatten
import Interpose.Proofs.Pointcut.RoundTrip

namespace Interpose.Pointcut

namespace Expression

def height : Expression → Nat
  | leaf _ => 1
  | and l r _ | or l r _ => max l.height r.height + 1
  | not e => e.height + 1

-- The height if operands that are joined from the left by one operator are children of one node.
-- The level tells which operator the node above is of, if it goes on here.
def layers : Level → Expression → Nat
  | _, leaf _ => 1
  | _, not e => e.layers .operand + 1
  | level, and l r _ =>
    max (l.layers .conjunction) (r.layers .operand) + if level = .conjunction then 0 else 1
  | level, or l r _ =>
    max (l.layers .disjunction) (r.layers .operand) + if level = .disjunction then 0 else 1

-- How many negations are around one another.
def negations : Expression → Nat
  | leaf _ => 0
  | and l r _ | or l r _ => max l.negations r.negations
  | not e => e.negations + 1

end Expression

def height : Pointcut → Nat
  | leaf _ _ => 1
  | and _ l r | or _ l r | divergent l r => max l.height r.height + 1
  | not _ p => p.height + 1

-- The layers of a pointcut, counted as those of an expression.
def layers : Level → Pointcut → Nat
  | _, leaf _ _ => 1
  | _, not _ p => p.layers .operand + 1
  | level, and _ l r =>
    max (l.layers .conjunction) (r.layers .operand) + if level = .conjunction then 0 else 1
  | level, or _ l r =>
    max (l.layers .disjunction) (r.layers .operand) + if level = .disjunction then 0 else 1
  | _, divergent e w => max (e.layers .operand) (w.layers .operand) + 1

section Expressions

variable {level : Level} {room : Nat} {e b : Expression} {ts : List Located} {domain : Domain}

namespace Expression

theorem leaves_pos : 0 < e.leaves.length := by
  induction e
  case leaf   => exact Nat.one_pos
  case not hi => exact hi
  all_goals
    simp only [leaves, List.length_append]
    omega

theorem height_le : e.height ≤ e.negations + e.leaves.length := by
  induction e
  case leaf => simp [height, leaves]
  case not hi =>
    simp only [height, negations, leaves]
    omega
  all_goals
    rename_i l r _ hl hr
    have := l.leaves_pos
    have := r.leaves_pos
    simp only [height, negations, leaves, List.length_append]
    omega

theorem height_unplaced : e.unplaced.height = e.height := by
  induction e <;> simp_all [unplaced, height]

theorem layers_le_operand (level : Level) : e.layers level ≤ e.layers .operand := by
  cases e <;> cases level <;> simp [layers]

theorem layers_operand_le (level : Level) : e.layers .operand ≤ e.layers level + 1 := by
  cases e <;> cases level <;> simp [layers]

theorem negations_le_of_mem (h : b ∈ e.branches) : b.negations ≤ e.negations := by
  induction e
  case or hl hr =>
    cases List.mem_append.mp h
    case inl h => exact Nat.le_trans (hl h) (Nat.le_max_left ..)
    case inr h => exact Nat.le_trans (hr h) (Nat.le_max_right ..)
  all_goals cases List.mem_singleton.mp h; exact Nat.le_refl _

theorem layers_le_of_mem (h : b ∈ e.branches) : b.layers .operand ≤ e.layers .disjunction := by
  induction e
  case or l r _ hl hr =>
    have := r.layers_le_operand .disjunction
    simp only [layers, if_true, Nat.add_zero]
    cases List.mem_append.mp h
    case inl h => exact Nat.le_trans (hl h) (Nat.le_max_left ..)
    case inr h => exact Nat.le_trans (hr h) (Nat.le_trans this (Nat.le_max_right ..))
  all_goals cases List.mem_singleton.mp h; simp [layers]

end Expression

-- Where one level ends and the next begins is where parentheses and negations are.
theorem Derives.layers_le (h : Derives level room e ts) :
    e.layers level ≤ 2 * room + if level = .disjunction then 2 else 1 := by
  induction h
  case leaf => exact Nat.le_add_left 1 _
  case not hi =>
    simp only [Expression.layers, reduceCtorEq, if_false] at hi ⊢
    omega
  case group e _ _ hi =>
    have := e.layers_operand_le .disjunction
    simp only [reduceCtorEq, if_true, if_false] at hi ⊢
    omega
  case operand e _ _ hi =>
    have := e.layers_le_operand .conjunction
    simp only [reduceCtorEq, if_false] at hi ⊢
    omega
  case conjunction e _ _ hi =>
    have := e.layers_le_operand .disjunction
    have := e.layers_operand_le .conjunction
    simp only [reduceCtorEq, if_true, if_false] at hi ⊢
    omega
  case and hl hr =>
    simp only [Expression.layers, reduceCtorEq, if_true, if_false] at hl hr ⊢
    omega
  case or l r _ _ _ _ hl hr =>
    have := r.layers_operand_le .conjunction
    simp only [Expression.layers, reduceCtorEq, if_true, if_false] at hl hr ⊢
    omega

theorem Derives.negations_le (h : Derives level room e ts) : e.negations ≤ room := by
  induction h
  case leaf => exact Nat.zero_le _
  case not hi => exact Nat.succ_le_succ hi
  case group hi => exact Nat.le_succ_of_le hi
  case and hl hr => exact Nat.max_le.mpr ⟨hl, hr⟩
  case or hl hr => exact Nat.max_le.mpr ⟨hl, hr⟩
  all_goals assumption

end Expressions

section Pointcuts

variable {domain : Domain} {level : Level} {e : Expression} {es : List Expression}
variable {p : Pointcut} {m n k : Nat}

theorem height_inDomain : (e.inDomain domain).height = e.height := by
  induction e <;> simp_all [Expression.inDomain, ofDesignator, height, Expression.height]

theorem layers_inDomain : (e.inDomain domain).layers level = e.layers level := by
  induction e generalizing level <;>
    simp_all [Expression.inDomain, ofDesignator, layers, Expression.layers]

theorem layers_operand_le (level : Level) : p.layers .operand ≤ p.layers level + 1 := by
  cases p <;> cases level <;> simp [layers]

-- Each alternative that is joined to the others adds one level, and has at least one designator.
theorem height_foldl_le (hp : p.height ≤ n + k) (hk : 0 < k)
    (h : ∀ e ∈ es, e.height ≤ n + e.leaves.length) :
    ((es.map (·.inDomain domain)).foldl (or domain) p).height ≤
      n + (k + (es.flatMap (·.leaves)).length) := by
  induction es generalizing p k
  case nil => simpa using hp
  case cons e es hi =>
    have ⟨he, hes⟩ := List.forall_mem_cons.mp h
    have hl := e.leaves_pos
    have hj : (or domain p (e.inDomain domain)).height ≤ n + (k + e.leaves.length) := by
      simp only [height, height_inDomain]
      omega
    have := hi hj (by omega) hes
    simp only [List.map_cons, List.foldl_cons, List.flatMap_cons, List.length_append]
    omega

-- The alternatives are children of one node.
theorem layers_foldl_le (hp : p.layers .disjunction ≤ m)
    (h : ∀ e ∈ es, e.layers .operand ≤ m) :
    ((es.map (·.inDomain domain)).foldl (or domain) p).layers .disjunction ≤ m := by
  induction es generalizing p
  case nil => exact hp
  case cons e es hi =>
    have ⟨he, hes⟩ := List.forall_mem_cons.mp h
    apply hi _ hes
    simp only [layers, layers_inDomain, if_true, Nat.add_zero]
    exact Nat.max_le.mpr ⟨hp, he⟩

-- No alternative counts twice for a domain.
theorem length_leaves_alternativesOf (domain : Domain) (es : List Expression) :
    ((alternativesOf domain es).flatMap (·.leaves)).length ≤ (es.flatMap (·.leaves)).length := by
  rw [alternativesOf]
  split
  case isTrue =>
    have hp := List.filter_append_perm (·.mentions domain) es
    rw [← (hp.flatMap_right _).length_eq]
    apply List.Sublist.length_le
    apply List.Sublist.flatMap
    apply List.Sublist.append_left
    apply List.monotone_filter_right
    intro e
    cases domain <;> simp_all [Expression.isNeutral]
  case isFalse => simp

theorem side_eq_some (h : side domain es = some p) : ∃ e bs, alternativesOf domain es = e :: bs ∧
    p = (bs.map (·.inDomain domain)).foldl (or domain) (e.inDomain domain) := by
  rw [side] at h
  cases hes : alternativesOf domain es <;> rw [hes] at h <;> cases h
  case cons e bs => exact ⟨e, bs, rfl, rfl⟩

theorem side_height_le (hs : side domain es = some p)
    (h : ∀ e ∈ es, e.height ≤ n + e.leaves.length) :
    p.height ≤ n + (es.flatMap (·.leaves)).length := by
  have hb : ∀ b ∈ alternativesOf domain es, b.height ≤ n + b.leaves.length :=
    fun b hb => h b (mem_alternativesOf.mp hb).left.left
  have hl := length_leaves_alternativesOf domain es
  have ⟨e, bs, hes, hp⟩ := side_eq_some hs
  rw [hes] at hb hl
  have ⟨he, hbs⟩ := List.forall_mem_cons.mp hb
  have hd : (e.inDomain domain).height ≤ n + e.leaves.length :=
    Nat.le_trans (Nat.le_of_eq height_inDomain) he
  rw [List.flatMap_cons, List.length_append] at hl
  rw [hp]
  exact Nat.le_trans (height_foldl_le hd e.leaves_pos hbs) (Nat.add_le_add_left hl n)

theorem side_layers_le (hs : side domain es = some p) (h : ∀ e ∈ es, e.layers .operand ≤ m) :
    p.layers .disjunction ≤ m := by
  have hb : ∀ b ∈ alternativesOf domain es, b.layers .operand ≤ m :=
    fun b hb => h b (mem_alternativesOf.mp hb).left.left
  have ⟨e, bs, hes, hp⟩ := side_eq_some hs
  rw [hes] at hb
  have ⟨he, hbs⟩ := List.forall_mem_cons.mp hb
  have hd : (e.inDomain domain).layers .disjunction ≤ m := by
    rw [layers_inDomain]
    exact Nat.le_trans (e.layers_le_operand _) he
  exact hp ▸ layers_foldl_le hd hbs

theorem MadeOf.height_le (h : MadeOf es p) (hn : ∀ e ∈ es, e.height ≤ n + e.leaves.length) :
    p.height ≤ n + (es.flatMap (·.leaves)).length + 1 := by
  have ⟨_, hs⟩ := h
  cases he : side .execution es <;> cases hw : side .autowire es <;> rw [he, hw] at hs <;> cases hs
  case some.some =>
    have := side_height_le he hn
    have := side_height_le hw hn
    simp only [height]
    omega
  case some.none => exact Nat.le_succ_of_le (side_height_le he hn)
  case none.some => exact Nat.le_succ_of_le (side_height_le hw hn)

theorem MadeOf.layers_le (h : MadeOf es p) (hm : ∀ e ∈ es, e.layers .operand ≤ m) :
    p.layers .operand ≤ m + 2 := by
  have hl : ∀ {domain q}, side domain es = some q → q.layers .operand ≤ m + 1 := fun hs =>
    Nat.le_trans (layers_operand_le _) (Nat.succ_le_succ (side_layers_le hs hm))
  have ⟨_, hs⟩ := h
  cases he : side .execution es <;> cases hw : side .autowire es <;> rw [he, hw] at hs <;> cases hs
  case some.some => exact Nat.succ_le_succ (Nat.max_le.mpr ⟨hl he, hl hw⟩)
  case some.none => exact Nat.le_succ_of_le (hl he)
  case none.some => exact Nat.le_succ_of_le (hl hw)

end Pointcuts

section Chains

variable {d : Designator} {n : Nat}

-- As many conjunctions of a designator with itself.
def chain (d : Designator) : Nat → Expression
  | 0 => .leaf d
  | n + 1 => .and (chain d n) (.leaf d) 0

theorem height_chain : (chain d n).height = n + 1 := by
  induction n
  case zero      => rfl
  case succ n hi => simp [chain, Expression.height, hi]

theorem unplaced_chain : (chain d n).unplaced = chain d n := by
  induction n
  case zero      => rfl
  case succ n hi => simp [chain, Expression.unplaced, hi]

theorem nesting_chain (level : Level) (h : level.takes .conjunction) :
    (chain d n).nesting level = 0 := by
  induction n generalizing level
  case zero      => rfl
  case succ n hi => simp [chain, Expression.nesting, h, hi .conjunction rfl]

theorem eq_of_mem_leaves_chain {d' : Designator} (h : d' ∈ (chain d n).leaves) : d' = d := by
  induction n
  case zero      => exact List.mem_singleton.mp h
  case succ n hi => exact (List.mem_append.mp h).elim hi List.mem_singleton.mp

theorem mentions_chain {domain : Domain} :
    (chain d n).mentions domain = (Expression.leaf d).mentions domain := by
  induction n
  case zero      => rfl
  case succ n hi => rw [chain, Expression.mentions_and, hi, Bool.or_self]

theorem exists_lexes_chain (h : d.Readable) :
    ∃ text : String, Lexes text.toList ((chain d n).tokens .disjunction) := by
  have hd := lexes_designator h.proper
  induction n
  case zero => exact ⟨d.text, hd⟩
  case succ n hi =>
    have ⟨text, ht⟩ := hi
    have hl : (chain d n).tokens .disjunction = (chain d n).tokens .conjunction := by
      cases n <;> rfl
    refine ⟨text ++ " && " ++ d.text, ?_⟩
    have := (hl ▸ ht).joined (c := '&') rfl hd
    simpa [chain, Expression.tokens, enclosed, Level.takes] using this

theorem MadeOf.single {e : Expression} (h : e.mentions .execution = true)
    (hn : e.mentions .autowire = false) : MadeOf [e] (e.inDomain .execution) where
  unmixed := by simp [Expression.mixes, hn]
  sides   := by simp [side, alternativesOf, alternation, ofSides, Expression.isNeutral, h, hn]

-- A chain of a designator of the executions is read, and nothing of it is lost.
theorem exists_height (h : d.Readable) (hd : d.domain? = some .execution) (n : Nat) :
    ∃ text e p, Expression.parse text = .ok e ∧ parse text = .ok p ∧
      e.height = n + 1 ∧ p.height = n + 1 := by
  have ⟨text, hl⟩ := exists_lexes_chain (n := n) h
  have ⟨ts, ht, hts⟩ := hl.tokensOf
  have hc : (chain d n).Printable := {
    leaves  := fun _ hm => ⟨_, eq_of_mem_leaves_chain hm ▸ h.spelled⟩
    nesting := Nat.le_trans (Nat.le_of_eq (nesting_chain _ rfl)) (Nat.zero_le _)
  }
  have ⟨e, he, hu⟩ := Expression.ofTokens_of_tokens hc hts
  have he := expression_parse_eq_ok.mpr ⟨ts, ht, Expression.ofTokens_eq_ok.mp he⟩
  rw [unplaced_chain] at hu
  have hm : ∀ domain, (chain d n).mentions domain = (domain == .execution) := by
    intro domain
    rw [mentions_chain, Expression.mentions_leaf, hd]
    cases domain <;> rfl
  have hp : MadeOf [chain d n] ((chain d n).inDomain .execution) := .single (hm _) (hm _)
  have hp : MadeOf e.branches ((chain d n).inDomain .execution) := by
    rw [← MadeOf.map_unplaced, ← Expression.branches_unplaced, hu]
    cases n <;> exact hp
  refine ⟨text, e, _, he, parse_eq_ok.mpr ⟨e, he, hp⟩, ?_, ?_⟩
  · rw [← Expression.height_unplaced, hu, height_chain]
  · rw [height_inDomain, height_chain]

end Chains

-- As long as operands that are joined side by side are children of one node, neither a pointcut nor
-- its expression is higher than a constant allows. Without that, each designator adds at most one.
theorem height_bounded {text : String} {p : Pointcut} (h : parse text = .ok p) :
    ∃ e, Expression.parse text = .ok e ∧
      (e.layers .operand ≤ 2 * maxNesting + 4 ∧ p.layers .operand ≤ 2 * maxNesting + 4) ∧
      e.height ≤ maxNesting + 1 + e.leaves.length ∧
      p.height ≤ maxNesting + 1 + e.leaves.length := by
  have ⟨e, he, hp⟩ := parse_eq_ok.mp h
  have ⟨_, _, hd⟩ := expression_parse_eq_ok.mp he
  have hn := hd.negations_le
  have hl : e.layers .disjunction ≤ 2 * maxNesting + 2 := hd.layers_le
  have hpl := hp.layers_le fun b hb => Nat.le_trans (Expression.layers_le_of_mem hb) hl
  have hph := hp.height_le (n := maxNesting) fun b hb => by
    have := b.height_le
    have := Expression.negations_le_of_mem hb
    omega
  have := e.layers_operand_le .disjunction
  have := e.height_le
  rw [← Expression.leaves_eq_flatMap] at hph
  exact ⟨e, he, ⟨by omega, hpl⟩, by omega, by omega⟩

theorem height_bounded_divergent :
    ∃ e, Expression.parse "!!within(A) || autowire(B) || target(C) && within(D)" = .ok e ∧
      ∃ p, parse "!!within(A) || autowire(B) || target(C) && within(D)" = .ok p ∧
        (e.layers .operand ≤ 132 ∧ p.layers .operand ≤ 132) ∧ e.height ≤ 69 ∧ p.height ≤ 69 := by
  have ⟨p, hp⟩ := Outcome.isOk_iff.mp
    (show (parse "!!within(A) || autowire(B) || target(C) && within(D)").isOk by decide +kernel)
  have ⟨e, he, hl, hh⟩ := height_bounded hp
  have hn : (Expression.parse "!!within(A) || autowire(B) || target(C) && within(D)").map
      (·.leaves.length) = .ok 4 := by decide +kernel
  rw [he] at hn
  have hn : e.leaves.length = 4 := Except.ok.inj hn
  rw [hn] at hh
  exact ⟨e, he, p, hp, hl, hh⟩

-- There is no bound on the height of what is read.
theorem height_unbounded : ¬∃ bound, ∀ text e p, Expression.parse text = .ok e →
    parse text = .ok p → e.height ≤ bound ∧ p.height ≤ bound := by
  intro ⟨bound, hb⟩
  have ha : Expression.parse "within(A)" = .ok (.leaf (.within (.parse "A"))) := by decide +kernel
  have hr := readable_of_parse ha _ List.mem_cons_self
  have ⟨text, e, p, he, hp, _, hh⟩ := exists_height hr rfl bound
  have := (hb text e p he hp).right
  omega

end Interpose.Pointcut
