import Interpose.Proofs.Pointcut.Diagnosis
import Interpose.Proofs.Pointcut.Shown

namespace Interpose.Pointcut

open Outcome

-- Where errors are in two texts with the same tokens: at the same token and as far into it, at the
-- end of both, or at the start where the whole of the expression is at fault.
inductive SamePlace (text text' : String) (ts ts' : List Located) : SyntaxFault → Nat → Nat → Prop
  | within {fault : SyntaxFault} {t : Token} {i i' n : Nat} : Corresponds ts ts' t i i' →
    n ≤ t.lexeme.length → SamePlace text text' ts ts' fault (i + n) (i' + n)
  | ended {wanted : Wanted} :
    SamePlace text text' ts ts' (.expected wanted none) text.length text'.length
  | empty : SamePlace text text' ts ts' .empty 0 0
  | noDomain : SamePlace text text' ts ts' .noDomain 0 0

-- The texts are refused for the same reason: with the same message at the same place, or since the
-- same operator mixes the domains.
inductive SameError (text text' : String) (ts ts' : List Located) : ReadError → ReadError → Prop
  | syntactic {fault : SyntaxFault} {i i' : Nat} : SamePlace text text' ts ts' fault i i' →
    SameError text text' ts ts' (.syntactic ⟨text, fault, i⟩) (.syntactic ⟨text', fault, i'⟩)
  | mixed {t : Token} {i i' : Nat} : t = .and ∨ t = .or → Corresponds ts ts' t i i' →
    SameError text text' ts ts' (.crosscut (.mixed text i)) (.crosscut (.mixed text' i'))

namespace Expression

variable {At : Token → Nat → Nat → Prop} {e e' : Expression}

-- An operator is at these places.
def Operator (At : Token → Nat → Nat → Prop) (i i' : Nat) : Prop :=
  ∃ t, (t = .and ∨ t = .or) ∧ At t i i'

theorem Alike.unplaced (h : e.Alike At e') : e.unplaced = e'.unplaced := by
  induction h
  case leaf              => rfl
  case and _ _ _ hl hr   => rw [Expression.unplaced, Expression.unplaced, hl, hr]
  case or _ _ _ hl hr    => rw [Expression.unplaced, Expression.unplaced, hl, hr]
  case not _ hi          => rw [Expression.unplaced, Expression.unplaced, hi]

theorem Alike.branches (h : e.Alike At e') : List.Forall₂ (Alike At) e.branches e'.branches := by
  induction h
  case or _ _ _ hl hr => exact List.rel_append hl hr
  case leaf d => exact .cons (.leaf d) .nil
  case and hl hr hi _ _ => exact .cons (.and hl hr hi) .nil
  case not hi _ => exact .cons (.not hi) .nil

-- The same domain is told of both, or both are refused for an operator that mixes the domains.
theorem Alike.domain? (h : e.Alike At e') : Rel (Operator At) Eq e.domain? e'.domain? := by
  have hjoin : ∀ {l l' r r' : Expression} {i i'}, Rel (Operator At) Eq l.domain? l'.domain? →
      Rel (Operator At) Eq r.domain? r'.domain? → Operator At i i' →
      Rel (Operator At) Eq (Expression.and l r i).domain? (Expression.and l' r' i').domain? := by
    intro l l' r r' i i' hl hr hi
    refine hl.bind fun a _ ha => hr.bind fun b _ hb => ?_
    subst ha hb
    cases a <;> cases b
    case some.some a b =>
      by_cases hab : a = b
      case pos => simp only [if_pos hab]; exact .ok rfl
      case neg => simp only [if_neg hab]; exact .error hi
    all_goals exact .ok rfl
  induction h
  case leaf d           => exact .ok rfl
  case and _ _ hi hl hr => exact hjoin hl hr ⟨.and, .inl rfl, hi⟩
  case or _ _ hi hl hr  => exact hjoin hl hr ⟨.or, .inr rfl, hi⟩
  case not hi           => exact hi

end Expression

section Alternatives

variable {At : Token → Nat → Nat → Prop} {e e' : Expression} {es es' : List Expression}
variable {text text' : String}

-- An operator at these places mixes the domains.
inductive Mixed (At : Token → Nat → Nat → Prop) (text text' : String) : Crosscut → Crosscut → Prop
  | intro {i i' : Nat} : Expression.Operator At i i' →
    Mixed At text text' (.mixed text i) (.mixed text' i')

theorem rel_classified (text text' : String) (h : List.Forall₂ (Expression.Alike At) es es') :
    Rel (Mixed At text text') (List.Forall₂ fun c c' => c.1 = c'.1) (classified text es)
      (classified text' es') := by
  refine Rel.mapM h fun b b' hb => Rel.mapError (hb.domain?.map ?_) fun i i' hi => .intro hi
  exact fun _ _ hd => hd

theorem rel_ofAlternatives (h : e.Alike At e') :
    Rel (Mixed At text text') Eq (ofAlternatives text e) (ofAlternatives text' e') := by
  rcases rel_iff.mp (rel_classified text text' h.branches) with
    ⟨cs, cs', hc, hc', _⟩ | ⟨c, c', hc, hc', hm⟩
  case inl =>
    have hs : ∀ domain, side domain e.branches = side domain e'.branches := by
      intro domain
      rw [← side_unplaced, ← Expression.branches_unplaced, h.unplaced,
        Expression.branches_unplaced, side_unplaced]
    rw [ofAlternatives_eq (not_mixes_of_classified hc),
      ofAlternatives_eq (not_mixes_of_classified hc'), hs, hs]
    exact .ok rfl
  case inr =>
    simp only [ofAlternatives, hc, hc']
    exact .error hm

end Alternatives

section Texts

variable {text text' : String} {ts ts' : List Located}

theorem rel_expression_parse (h : tokensOf text = .ok ts) (h' : tokensOf text' = .ok ts')
    (hs : ts.map (·.token) = ts'.map (·.token)) :
    Rel (fun e e' => SameError text text' ts ts' (.syntactic e) (.syntactic e'))
      (Expression.Alike (Corresponds ts ts')) (Expression.parse text) (Expression.parse text') := by
  have ha : Along (Corresponds ts ts') [] ts (ts' ++ []) := along_of_map_eq hs
  rw [List.append_nil] at ha
  rw [Expression.parse, Expression.parse, h, h']
  refine (Expression.ofTokens_along ha).mapError fun f f' hf => ?_
  cases hf
  case empty        => exact .syntactic .empty
  case within hi hc => exact .syntactic (.within hi hc.le)
  case ended        => exact .syntactic .ended

-- Only the tokens of an expression matter for what it is read as, or why it is refused and at which
-- of them: not where they stand, or what there is between them.
theorem parse_layout (h : tokensOf text = .ok ts) (h' : tokensOf text' = .ok ts')
    (hs : ts.map (·.token) = ts'.map (·.token)) :
    Rel (SameError text text' ts ts') Eq (parse text) (parse text') := by
  refine ((rel_expression_parse h h' hs).mapError fun _ _ => id).bind fun e e' he => ?_
  have hm : Rel (SameError text text' ts ts') Eq
      ((ofAlternatives text e).mapError ReadError.crosscut)
      ((ofAlternatives text' e').mapError ReadError.crosscut) := by
    refine (rel_ofAlternatives he).mapError fun _ _ hc => ?_
    obtain ⟨t, ht, hi⟩ := hc
    exact .mixed ht hi
  refine hm.bind fun p? _ hp => ?_
  subst hp
  cases p?
  case none   => exact .error (.syntactic .noDomain)
  case some p => exact .ok rfl

end Texts

theorem parse_layout_spaced :
    tokensOf "within(A B)" =
        .ok [⟨.word "within", 0⟩, ⟨.openParen, 6⟩, ⟨.word "A", 7⟩, ⟨.word "B", 9⟩,
          ⟨.closeParen, 10⟩] ∧
      tokensOf " within( A B )" =
        .ok [⟨.word "within", 1⟩, ⟨.openParen, 7⟩, ⟨.word "A", 9⟩, ⟨.word "B", 11⟩,
          ⟨.closeParen, 13⟩] ∧
      Rel (SameError "within(A B)" " within( A B )"
        [⟨.word "within", 0⟩, ⟨.openParen, 6⟩, ⟨.word "A", 7⟩, ⟨.word "B", 9⟩, ⟨.closeParen, 10⟩]
        [⟨.word "within", 1⟩, ⟨.openParen, 7⟩, ⟨.word "A", 9⟩, ⟨.word "B", 11⟩, ⟨.closeParen, 13⟩])
        Eq (parse "within(A B)") (parse " within( A B )") := by
  have h : tokensOf "within(A B)" =
      .ok [⟨.word "within", 0⟩, ⟨.openParen, 6⟩, ⟨.word "A", 7⟩, ⟨.word "B", 9⟩,
        ⟨.closeParen, 10⟩] := by
    decide +kernel
  have h' : tokensOf " within( A B )" =
      .ok [⟨.word "within", 1⟩, ⟨.openParen, 7⟩, ⟨.word "A", 9⟩, ⟨.word "B", 11⟩,
        ⟨.closeParen, 13⟩] := by
    decide +kernel
  exact ⟨h, h', parse_layout h h' rfl⟩

-- They are at the same token.
example :
    parse "within(A B)" =
        .error (.syntactic ⟨"within(A B)", .expected .closeParen (some (.word "B")), 9⟩) ∧
      parse " within( A B )" =
        .error (.syntactic ⟨" within( A B )", .expected .closeParen (some (.word "B")), 11⟩) := by
  decide +kernel

end Interpose.Pointcut
