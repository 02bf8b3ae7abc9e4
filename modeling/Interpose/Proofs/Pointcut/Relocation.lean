import Interpose.Proofs.Pointcut.Grammar

namespace Interpose.Pointcut

-- The fault is about the token, and points so far into it.
inductive SyntaxFault.Concerns : SyntaxFault → Token → Nat → Prop
  | found {wanted : Wanted} {t : Token} : Concerns (.expected wanted (some t)) t 0
  | negation : Concerns .nesting .not 0
  | group : Concerns .nesting .openParen 0
  | designator {w : String} : Concerns (.unknownDesignator w) (.word w) 0
  | annotated {w : String}  : Concerns (.unknownAnnotationDesignator w) (.word w) 0
  -- The word begins with the type.
  | dots {w rest : String} : Concerns (.dotsInType w) (.word (w ++ rest)) 0
  -- The plus is right there.
  | plus {w : String} {before after : List Char} : w.toList = before ++ '+' :: after →
    Concerns .covariance (.word w) before.length
  -- The word ends with the name.
  | method {before w : String} : Concerns (.methodName w) (.word (before ++ w)) before.length
  | field {w : String} : Concerns (.fieldName w) (.word w) 0

-- What is said where something is wanted in front of these tokens.
def refusal (wanted : Wanted) : List Located → ParseFault
  | [] => ⟨.expected wanted none, none⟩
  | t :: _ => ⟨.expected wanted (some t.token), some t.position⟩

-- Tokens that are never taken by a reader which could also stop in front of them.
inductive Quiet : List Located → Prop
  | none : Quiet []
  | atSign {i : Nat} {ts : List Located} : Quiet (⟨.atSign, i⟩ :: ts)
  | close {i : Nat} {ts : List Located} : Quiet (⟨.closeParen, i⟩ :: ts)

-- What is wanted can begin with such tokens.
inductive Wanted.Welcomes : Wanted → List Located → Prop
  | designator {i : Nat} {ts : List Located} : Welcomes .designator (⟨.atSign, i⟩ :: ts)
  | close {i : Nat} {ts : List Located} : Welcomes .closeParen (⟨.closeParen, i⟩ :: ts)
  | closeParams {i : Nat} {ts : List Located} : Welcomes .closeParams (⟨.closeParen, i⟩ :: ts)
  | noParams {i : Nat} {ts : List Located} : Welcomes .paramType (⟨.closeParen, i⟩ :: ts)

section Quiet

variable {tail : List Located} {t : Token} {wanted : Wanted}

theorem Quiet.ahead_ne (hq : Quiet tail) (ha : t ≠ .atSign) (hc : t ≠ .closeParen) :
    ahead tail ≠ some t := by
  cases hq
  case none   => exact nofun
  case atSign => exact fun h => ha (Option.some.inj h).symm
  case close  => exact fun h => hc (Option.some.inj h).symm

end Quiet

-- The same tokens at places that correspond. The second ones have a tail.
inductive Along (At : Token → Nat → Nat → Prop) (tail : List Located) :
    List Located → List Located → Prop
  | nil : Along At tail [] tail
  | cons {t : Token} {i i' : Nat} {ts ts' : List Located} : At t i i' → Along At tail ts ts' →
    Along At tail (⟨t, i⟩ :: ts) (⟨t, i'⟩ :: ts')

theorem Along.ahead_ne {At : Token → Nat → Nat → Prop} {tail ts ts' : List Located} {t : Token}
    (ha : Along At tail ts ts') (ht : ahead tail ≠ some t) (h : ahead ts ≠ some t) :
    ahead ts' ≠ some t := by
  cases ha
  case nil  => exact ht
  case cons => exact h

-- Both runs give something that corresponds, or they fail at the same token. Where the first one
-- has come to the end, the second one has come to the tail.
inductive Agree {α β : Type} (At : Token → Nat → Nat → Prop) (tail : List Located)
    (R : α → β → Prop) :
    Except ParseFault (α × List Located) → Except ParseFault (β × List Located) → Prop
  | ok {a : α} {b : β} {ts ts' : List Located} : R a b → Along At tail ts ts' →
    Agree At tail R (.ok (a, ts)) (.ok (b, ts'))
  | within {fault : SyntaxFault} {t : Token} {i i' n : Nat} : At t i i' → fault.Concerns t n →
    Agree At tail R (.error ⟨fault, some (i + n)⟩) (.error ⟨fault, some (i' + n)⟩)
  | refused {wanted : Wanted} : Agree At tail R (.error (refusal wanted []))
    (.error (refusal wanted tail))
  | welcome {wanted : Wanted} {y : Except ParseFault (β × List Located)} :
    wanted.Welcomes tail → Agree At tail R (.error (refusal wanted [])) y

-- The same expressions, with operators at places that correspond.
inductive Expression.Alike (At : Token → Nat → Nat → Prop) : Expression → Expression → Prop
  | leaf (d : Designator) : Alike At (.leaf d) (.leaf d)
  | and {l l' r r' : Expression} {i i' : Nat} : Alike At l l' → Alike At r r' → At .and i i' →
    Alike At (.and l r i) (.and l' r' i')
  | or {l l' r r' : Expression} {i i' : Nat} : Alike At l l' → Alike At r r' → At .or i i' →
    Alike At (.or l r i) (.or l' r' i')
  | not {e e' : Expression} : Alike At e e' → Alike At (.not e) (.not e')

namespace Parser

structure Parallel {α β : Type} (At : Token → Nat → Nat → Prop) (tail : List Located)
    (R : α → β → Prop) (p : Parser α) (q : Parser β) : Prop where
  agree : ∀ {ts ts'}, Along At tail ts ts' → Agree At tail R (p ts) (q ts')

variable {α β γ δ : Type} {At : Token → Nat → Nat → Prop} {tail ts ts' : List Located}
variable {R : α → β → Prop} {S : γ → δ → Prop} {p : Parser α} {q : Parser β}
variable {f : α → Parser γ} {g : β → Parser δ}

theorem agree_bind (h : Agree At tail R (p ts) (q ts'))
    (hf : ∀ a b mid mid', p ts = .ok (a, mid) → q ts' = .ok (b, mid') → R a b →
      Along At tail mid mid' → Agree At tail S (f a mid) (g b mid')) :
    Agree At tail S ((p >>= f) ts) ((q >>= g) ts') := by
  change Agree At tail S (p ts >>= fun r => f r.1 r.2) (q ts' >>= fun r => g r.1 r.2)
  revert hf
  generalize p ts = x at h ⊢
  generalize q ts' = y at h ⊢
  intro hf
  cases h
  case ok hr ha        => exact hf _ _ _ _ rfl rfl hr ha
  case within ht hc    => exact .within ht hc
  case refused         => exact .refused
  case welcome hw      => exact .welcome hw

namespace Parallel

theorem bind (h : Parallel At tail R p q) (hf : ∀ a b, R a b → Parallel At tail S (f a) (g b)) :
    Parallel At tail S (p >>= f) (q >>= g) where
  agree ha := agree_bind (h.agree ha) fun a b _ _ _ _ hr => (hf a b hr).agree

theorem pure {a : α} {b : β} (h : R a b) : Parallel At tail R (pure a) (pure b) where
  agree ha := .ok h ha

theorem failAt {fault : SyntaxFault} {t : Token} {i i' n : Nat} (ht : At t i i')
    (hc : fault.Concerns t n) :
    Parallel At tail R (failAt fault (i + n)) (failAt fault (i' + n)) where
  agree _ := .within ht hc

theorem expect {token : Token} {wanted : Wanted}
    (h : ahead tail = some token → wanted.Welcomes tail) :
    Parallel At tail Eq (expect token wanted) (expect token wanted) where
  agree ha := by
    rw [Parser.expect, get_bind, get_bind]
    cases ha
    case nil =>
      rcases tail with _ | ⟨u, us⟩
      case nil => exact .refused
      case cons =>
        by_cases hu : u.token = token
        case pos => exact .welcome (h (congrArg some hu))
        case neg =>
          simp only [if_neg hu]
          exact .refused
    case cons t i i' ts ts' ht ha =>
      by_cases hu : t = token
      case pos =>
        simp only [if_pos hu]
        exact .ok rfl ha
      case neg =>
        simp only [if_neg hu]
        exact .within ht .found

section Words

-- The same word at places that correspond.
def SameWord (At : Token → Nat → Nat → Prop) (w w' : String × Nat) : Prop :=
  w.1 = w'.1 ∧ At (.word w.1) w.2 w'.2

theorem word {wanted : Wanted} (hq : Quiet tail) :
    Parallel At tail (SameWord At) (word wanted) (word wanted) where
  agree ha := by
    cases ha
    case nil => cases hq <;> exact .refused
    case cons t i i' ts ts' ht ha =>
      cases t
      case word => exact .ok ⟨rfl, ht⟩ ha
      all_goals exact .within ht .found

theorem exists_of_findIdx? {c : Char} {cs : List Char} {n : Nat}
    (h : cs.findIdx? (· == c) = some n) :
    ∃ before after, cs = before ++ c :: after ∧ before.length = n := by
  have ⟨hlt, hc, _⟩ := List.findIdx?_eq_some_iff_getElem.mp h
  refine ⟨cs.take n, cs.drop (n + 1), ?_, List.length_take_of_le (Nat.le_of_lt hlt)⟩
  rw [← beq_iff_eq.mp hc, List.getElem_cons_drop, List.take_append_drop]

variable {w before rest : String} {i i' : Nat} {covariance : Bool}

theorem typeOf (h : At (.word (w ++ rest)) i i') :
    Parallel At tail Eq (typeOf w i covariance) (typeOf w i' covariance) := by
  unfold Parser.typeOf
  split
  case isTrue => exact failAt h .dots
  case isFalse =>
    split
    case h_1 => exact pure rfl
    case h_2 offset ho =>
      split
      case isTrue => exact pure rfl
      case isFalse =>
        obtain ⟨before, after, hw, rfl⟩ := exists_of_findIdx? ho
        have hp : (w ++ rest).toList = before ++ '+' :: (after ++ rest.toList) := by simp [hw]
        exact failAt h (.plus hp)

theorem typeOfWord (h : At (.word w) i i') :
    Parallel At tail Eq (Parser.typeOf w i covariance) (Parser.typeOf w i' covariance) := by
  have hw : At (.word (w ++ "")) i i' := by simpa using h
  exact typeOf hw

theorem methodName (h : At (.word (before ++ w)) i i') :
    Parallel At tail Eq (methodName w (i + before.length)) (methodName w (i' + before.length)) := by
  unfold Parser.methodName
  split
  case isTrue  => exact failAt h .method
  case isFalse => exact pure rfl

theorem qualifiedName (h : At (.word w) i i') :
    Parallel At tail Eq (qualifiedName w i) (qualifiedName w i') := by
  unfold Parser.qualifiedName
  split
  case h_1 =>
    have hw : At (.word ("" ++ w)) i i' := by simpa using h
    have hn : Parallel At tail Eq (Parser.methodName w i) (Parser.methodName w i') := methodName hw
    refine hn.bind fun n _ hn => ?_
    exact pure (hn ▸ rfl)
  case h_2 d n hs =>
    obtain ⟨rfl, _⟩ := splitQualified_eq_some.mp hs
    have ht : At (.word (d ++ ("." ++ n))) i i' := String.append_assoc .. ▸ h
    refine (typeOf ht).bind fun t _ ht => ?_
    have hn : Parallel At tail Eq (Parser.methodName n (i + d.length + 1))
        (Parser.methodName n (i' + d.length + 1)) := by
      rw [Nat.add_assoc, Nat.add_assoc]
      have hl : (d ++ ".").length = d.length + 1 := String.length_append ..
      exact hl ▸ methodName h
    refine hn.bind fun n _ hn => ?_
    exact pure (ht ▸ hn ▸ rfl)

theorem typeShape {wanted : Wanted} (hq : Quiet tail) :
    Parallel At tail Eq (typeShape wanted covariance) (typeShape wanted covariance) := by
  refine (word hq).bind ?_
  rintro ⟨w, i⟩ ⟨_, i'⟩ ⟨rfl, h⟩
  exact typeOfWord h

theorem param (hq : Quiet tail) : Parallel At tail Eq param param := by
  refine (word hq).bind ?_
  rintro ⟨w, i⟩ ⟨_, i'⟩ ⟨rfl, h⟩
  dsimp only
  split
  case isTrue => exact pure rfl
  case isFalse => exact (typeOfWord h).bind fun t _ ht => pure (ht ▸ rfl)

end Words

theorem expectOpen (hq : Quiet tail) :
    Parallel At tail Eq (Parser.expect .openParen .openParen)
      (Parser.expect .openParen .openParen) :=
  expect fun h => absurd h (hq.ahead_ne nofun nofun)

theorem expectClose {wanted : Wanted} (h : wanted = .closeParen ∨ wanted = .closeParams) :
    Parallel At tail Eq (Parser.expect .closeParen wanted) (Parser.expect .closeParen wanted) := by
  refine expect fun ha => ?_
  obtain ⟨i, us, rfl⟩ := ahead_eq_some.mp ha
  rcases h with rfl | rfl
  case inl => exact .close
  case inr => exact .closeParams

section Params

theorem length_le_of_param {p : ParamPattern} {rest : List Located}
    (h : Parser.param ts = .ok (p, rest)) : rest.length ≤ ts.length := by
  obtain ⟨w, i, _, rfl⟩ := param_eq_ok.mp h
  exact Nat.le_succ _

-- The second sequence may be longer, so the bounds are not the same.
theorem agree_moreParams (hq : Quiet tail) {bound bound' : Nat} (ha : Along At tail ts ts')
    (hb : ts.length ≤ bound) (hb' : ts'.length ≤ bound') :
    Agree At tail Eq (moreParams bound ts) (moreParams bound' ts') := by
  induction bound generalizing bound' ts ts'
  case zero =>
    cases List.eq_nil_of_length_eq_zero (Nat.le_zero.mp hb)
    cases ha
    rw [moreParams_eq_of_not_ahead (hq.ahead_ne nofun nofun)]
    exact .ok rfl .nil
  case succ bound hi =>
    by_cases hc : ahead ts = some .comma
    case neg =>
      have hc' : ahead ts' ≠ some .comma := ha.ahead_ne (hq.ahead_ne nofun nofun) hc
      rw [moreParams_eq_of_not_ahead hc, moreParams_eq_of_not_ahead hc']
      exact .ok rfl ha
    case pos =>
      obtain ⟨i, ts, rfl⟩ := ahead_eq_some.mp hc
      cases ha
      case cons i' ts' _ ha =>
        cases bound'
        case zero => cases hb'
        case succ bound' =>
          rw [moreParams, moreParams, get_bind, get_bind]
          simp only [set_bind]
          refine agree_bind ((param hq).agree ha) fun p _ mid mid' hp hp' he hm => ?_
          have hl : mid.length ≤ bound :=
            Nat.le_trans (length_le_of_param hp) (Nat.le_of_succ_le_succ hb)
          have hl' : mid'.length ≤ bound' :=
            Nat.le_trans (length_le_of_param hp') (Nat.le_of_succ_le_succ hb')
          refine agree_bind (hi hm hl hl') fun ps _ _ _ _ _ hps hr => ?_
          exact .ok (he ▸ hps ▸ rfl) hr

theorem params (hq : Quiet tail) : Parallel At tail Eq params params where
  agree {ts ts'} ha := by
    have hone : Agree At tail Eq
        ((do let p ← Parser.param; return p :: (← moreParams ts.length)) ts)
        ((do let p ← Parser.param; return p :: (← moreParams ts'.length)) ts') := by
      refine agree_bind ((param hq).agree ha) fun p _ mid mid' hp hp' he hm => ?_
      have hl := length_le_of_param hp
      have hl' := length_le_of_param hp'
      refine agree_bind (agree_moreParams hq hm hl hl') fun ps _ _ _ _ _ hps hr => ?_
      exact .ok (he ▸ hps ▸ rfl) hr
    by_cases hc : ahead ts' = some .closeParen
    case pos =>
      cases ha
      case nil =>
        obtain ⟨i, us, rfl⟩ := ahead_eq_some.mp hc
        exact .welcome .noParams
      case cons t i i' ts ts' ht ha =>
        cases hc
        exact .ok rfl (.cons ht ha)
    case neg =>
      have hc' : ahead ts ≠ some .closeParen := by
        cases ha
        case nil  => exact nofun
        case cons => exact hc
      rw [params_eq_of_not_close hc, params_eq_of_not_close hc']
      exact hone

theorem methodShape (hq : Quiet tail) : Parallel At tail Eq methodShape methodShape := by
  refine (typeShape hq).bind fun r _ hr => ?_
  refine (word hq).bind ?_
  rintro ⟨w, i⟩ ⟨_, i'⟩ ⟨rfl, h⟩
  refine (qualifiedName h).bind fun n _ hn => ?_
  refine (expectOpen hq).bind fun _ _ _ => ?_
  refine (params hq).bind fun ps _ hp => ?_
  refine (expectClose (.inr rfl)).bind fun _ _ _ => ?_
  exact pure (hr ▸ hn ▸ hp ▸ rfl)

end Params

section Designators

variable {name : String} {i i' : Nat}

theorem fieldName {w : String} (h : At (.word w) i i') :
    Parallel At tail Eq (fieldName w i) (fieldName w i') := by
  unfold Parser.fieldName
  split
  case isTrue  => exact failAt h .field
  case isFalse => exact pure rfl

theorem fieldShape (hq : Quiet tail) : Parallel At tail Eq fieldShape fieldShape := by
  refine (typeShape hq).bind fun t _ ht => ⟨fun {ts ts'} ha => ?_⟩
  subst ht
  rw [get_bind, get_bind]
  cases ha
  case nil =>
    cases hq <;> exact .ok rfl .nil
  case cons u i i' ts ts' hu ha =>
    cases u
    case word w =>
      simp only [set_bind]
      refine agree_bind ((fieldName hu).agree ha) fun n _ _ _ _ _ hn hm => ?_
      exact .ok (hn ▸ rfl) hm
    all_goals exact .ok rfl (.cons hu ha)

theorem annotationDesignator (hq : Quiet tail) :
    Parallel At tail Eq annotationDesignator annotationDesignator := by
  refine (word hq).bind ?_
  rintro ⟨name, i⟩ ⟨_, i'⟩ ⟨rfl, h⟩
  refine (expectOpen hq).bind fun _ _ _ => ?_
  refine (typeShape hq).bind fun t _ ht => ?_
  refine (expectClose (.inl rfl)).bind fun _ _ _ => ?_
  subst ht
  dsimp only
  split
  case h_5 => exact failAt h .annotated
  all_goals exact pure rfl

theorem designatorNamed (hq : Quiet tail) (h : At (.word name) i i') :
    Parallel At tail Eq (designatorNamed name i) (designatorNamed name i') := by
  unfold Parser.designatorNamed
  split
  case h_1 => exact (methodShape hq).bind fun m _ hm => pure (hm ▸ rfl)
  case h_2 => exact (fieldShape hq).bind fun f _ hf => pure (hf ▸ rfl)
  case h_3 => exact (typeShape hq).bind fun t _ ht => pure (ht ▸ rfl)
  case h_4 => exact (typeShape hq).bind fun t _ ht => pure (ht ▸ rfl)
  case h_5 => exact failAt h .designator

theorem designator (hq : Quiet tail) : Parallel At tail Eq designator designator where
  agree ha := by
    rw [Parser.designator, get_bind, get_bind]
    cases ha
    case nil =>
      cases hq
      case none   => exact .refused
      case atSign => exact .welcome .designator
      case close  => exact .refused
    case cons t i i' ts ts' ht ha =>
      cases t
      case atSign => exact (annotationDesignator hq).agree ha
      case word name =>
        simp only [set_bind]
        refine agree_bind ((expectOpen hq).agree ha) fun _ _ _ _ _ _ _ ha => ?_
        refine agree_bind ((designatorNamed hq ht).agree ha) fun d _ _ _ _ _ hd ha => ?_
        refine agree_bind ((expectClose (.inl rfl)).agree ha) fun _ _ _ _ _ _ _ ha => ?_
        exact .ok hd ha
      all_goals exact .within ht .found

end Designators

section Operators

variable {operand : Parser Expression} {operator : Token}
variable {join : Expression → Expression → Nat → Expression}
variable {D : Expression → List Located → Prop} {Follows : List Located → Prop}

-- The operands that are joined, and how.
structure Operates (At : Token → Nat → Nat → Prop) (tail : List Located)
    (operand : Parser Expression) (operator : Token)
    (join : Expression → Expression → Nat → Expression) : Prop where
  parallel : Parallel At tail (Expression.Alike At) operand operand
  shrinks  : ∀ {ts e rest}, operand ts = .ok (e, rest) → rest.length ≤ ts.length
  stops    : ahead tail ≠ some operator
  joins    : ∀ {l l' r r' i i'}, l.Alike At l' → r.Alike At r' → At operator i i' →
    (join l r i).Alike At (join l' r' i')

theorem Operates.agree (h : Operates At tail operand operator join) {bound bound' : Nat}
    {left left' : Expression} (hl : left.Alike At left') (ha : Along At tail ts ts')
    (hb : ts.length ≤ bound) (hb' : ts'.length ≤ bound') :
    Agree At tail (Expression.Alike At) (moreOperands operand operator join bound left ts)
      (moreOperands operand operator join bound' left' ts') := by
  induction bound generalizing bound' left left' ts ts'
  case zero =>
    cases List.eq_nil_of_length_eq_zero (Nat.le_zero.mp hb)
    cases ha
    rw [moreOperands_of_not_ahead h.stops]
    exact .ok hl .nil
  case succ bound hi =>
    by_cases ho : ahead ts = some operator
    case neg =>
      have ho' : ahead ts' ≠ some operator := ha.ahead_ne h.stops ho
      rw [moreOperands_of_not_ahead ho, moreOperands_of_not_ahead ho']
      exact .ok hl ha
    case pos =>
      obtain ⟨i, ts, rfl⟩ := ahead_eq_some.mp ho
      cases ha
      case cons i' ts' hi' ha =>
        cases bound'
        case zero => cases hb'
        case succ bound' =>
          rw [moreOperands, moreOperands, get_bind, get_bind]
          simp only [if_true, set_bind]
          refine agree_bind (h.parallel.agree ha) fun r r' mid mid' hr hr' hs hm => ?_
          have hlt : mid.length ≤ bound := Nat.le_trans (h.shrinks hr) (Nat.le_of_succ_le_succ hb)
          have hlt' : mid'.length ≤ bound' :=
            Nat.le_trans (h.shrinks hr') (Nat.le_of_succ_le_succ hb')
          exact hi (h.joins hl hs hi') hm hlt hlt'

theorem Operates.joined (h : Operates At tail operand operator join) :
    Parallel At tail (Expression.Alike At) (joined operand operator join)
      (joined operand operator join) where
  agree ha := by
    refine agree_bind (h.parallel.agree ha) fun l l' mid mid' _ _ hl hm => ?_
    rw [get_bind, get_bind]
    exact h.agree hl hm (Nat.le_refl _) (Nat.le_refl _)

theorem shrinks_of_recognizes (h : Recognizes operand D Follows) {e : Expression}
    {rest : List Located} (ho : operand ts = .ok (e, rest)) : rest.length ≤ ts.length := by
  obtain ⟨used, rfl, _⟩ := h.eq_ok.mp ho
  simp

end Operators

section Expressions

variable {room : Nat}

theorem disjunction (hq : Quiet tail)
    (h : Parallel At tail (Expression.Alike At) (Parser.operand room) (Parser.operand room)) :
    Parallel At tail (Expression.Alike At) (Parser.disjunction (Parser.operand room))
      (Parser.disjunction (Parser.operand room)) := by
  have hr := operand_recognizes room
  have hc : Operates At tail (Parser.operand room) .and .and :=
    ⟨h, shrinks_of_recognizes hr, hq.ahead_ne nofun nofun, .and⟩
  have hd : Operates At tail (Parser.conjunction (Parser.operand room)) .or .or :=
    ⟨hc.joined, shrinks_of_recognizes hr.conjunction, hq.ahead_ne nofun nofun, .or⟩
  exact hd.joined

theorem operand (hq : Quiet tail) :
    Parallel At tail (Expression.Alike At) (Parser.operand room) (Parser.operand room) := by
  have hleaf : Parallel At tail (Expression.Alike At)
      (do return .leaf (← Parser.designator)) (do return .leaf (← Parser.designator)) :=
    (designator hq).bind fun d _ hd => pure (hd ▸ .leaf d)
  induction room using Nat.strongRecOn
  case ind room hi =>
  constructor
  intro ts ts' ha
  by_cases hn : ahead ts = some .not
  case pos =>
    obtain ⟨i, ts, rfl⟩ := ahead_eq_some.mp hn
    cases ha
    case cons ht ha =>
    cases room
    case zero => exact .within ht .negation
    case succ room =>
      have hr := (hi room (Nat.lt_succ_self room)).agree ha
      rw [Parser.operand, get_bind, get_bind]
      simp only [set_bind]
      exact agree_bind hr fun _ _ _ _ _ _ he hm => .ok (.not he) hm
  case neg =>
  by_cases ho : ahead ts = some .openParen
  case pos =>
    obtain ⟨i, ts, rfl⟩ := ahead_eq_some.mp ho
    cases ha
    case cons ht ha =>
    cases room
    case zero => exact .within ht .group
    case succ room =>
      have hr := (disjunction hq (hi room (Nat.lt_succ_self room))).agree ha
      rw [Parser.operand, get_bind, get_bind]
      simp only [set_bind]
      refine agree_bind hr fun _ _ _ _ _ _ he hm => ?_
      exact agree_bind ((expectClose (.inl rfl)).agree hm) fun _ _ _ _ _ _ _ hm => .ok he hm
  case neg =>
    have hn' : ahead ts' ≠ some .not := ha.ahead_ne (hq.ahead_ne (by decide) (by decide)) hn
    have ho' : ahead ts' ≠ some .openParen := ha.ahead_ne (hq.ahead_ne (by decide) (by decide)) ho
    rw [operand_of_not_ahead hn ho, operand_of_not_ahead hn' ho']
    exact hleaf.agree ha

theorem whole (hq : Quiet tail) : Parallel At tail (Expression.Alike At)
    (Parser.disjunction (Parser.operand maxNesting))
    (Parser.disjunction (Parser.operand maxNesting)) :=
  disjunction hq (operand hq)

end Expressions

end Parallel
end Parser

-- The same fault, at the same token if it is at one.
inductive ParseFault.Alike (At : Token → Nat → Nat → Prop) : ParseFault → ParseFault → Prop
  | empty : Alike At ⟨.empty, some 0⟩ ⟨.empty, some 0⟩
  | within {fault : SyntaxFault} {t : Token} {i i' n : Nat} : At t i i' → fault.Concerns t n →
    Alike At ⟨fault, some (i + n)⟩ ⟨fault, some (i' + n)⟩
  | ended {wanted : Wanted} : Alike At (refusal wanted []) (refusal wanted [])

-- The token is in the same place of both sequences, at these positions.
def Corresponds (ts ts' : List Located) (t : Token) (i i' : Nat) : Prop :=
  ∃ k : Nat, ts[k]? = some ⟨t, i⟩ ∧ ts'[k]? = some ⟨t, i'⟩

section Sequences

variable {At : Token → Nat → Nat → Prop} {tail ts ts' : List Located} {wanted : Wanted}

theorem along_of_map_eq (h : ts.map (·.token) = ts'.map (·.token)) :
    Along (Corresponds ts ts') tail ts (ts' ++ tail) := by
  suffices ha : ∀ {At}, (∀ t i i', Corresponds ts ts' t i i' → At t i i') →
    Along At tail ts (ts' ++ tail) from ha fun _ _ _ => id
  intro At hat
  induction ts generalizing ts'
  case nil =>
    cases List.map_eq_nil_iff.mp h.symm
    exact .nil
  case cons t ts hi =>
    obtain ⟨i', ts', rfl, hs⟩ := map_token_eq_cons.mp h.symm
    refine .cons (hat t.token t.position i' ⟨0, rfl, rfl⟩) (hi hs.symm fun u j j' hu => ?_)
    obtain ⟨k, hk, hk'⟩ := hu
    exact hat u j j' ⟨k + 1, hk, hk'⟩

namespace Expression

theorem ofTokens_eq (h : ts ≠ []) : ofTokens ts = (do
    let (e, rest) ← Parser.disjunction (Parser.operand maxNesting) ts
    match rest with
    | [] => return e
    | _ :: _ => (Parser.unexpected .operator).run' rest) := by
  cases ts
  case nil => exact absurd rfl h
  case cons => rfl

-- The outcome does not hang on where the tokens stand.
theorem ofTokens_along (ha : Along At [] ts ts') :
    Outcome.Rel (ParseFault.Alike At) (Alike At) (ofTokens ts) (ofTokens ts') := by
  have hd := (Parser.Parallel.whole .none).agree ha
  cases ha
  case nil => exact .error .empty
  case cons t i i' ts ts' ht ha =>
  rw [ofTokens_eq (List.cons_ne_nil _ _), ofTokens_eq (List.cons_ne_nil _ _)]
  revert hd
  generalize Parser.disjunction (Parser.operand maxNesting) (⟨t, i⟩ :: ts) = x
  generalize Parser.disjunction (Parser.operand maxNesting) (⟨t, i'⟩ :: ts') = y
  intro hd
  cases hd
  case ok he hm =>
    cases hm
    case nil       => exact .ok he
    case cons hu _ => exact .error (.within hu .found)
  case within hu hc => exact .error (.within hu hc)
  case refused      => exact .error .ended
  case welcome hw   => cases hw

-- What stands behind the end of a sequence is what is looked at next if something is missed there.
theorem ofTokens_behind (hq : Quiet tail) (hw : ¬wanted.Welcomes tail) (ha : Along At tail ts ts')
    (h : ofTokens ts = .error (refusal wanted [])) :
    ofTokens ts' = .error (refusal wanted tail) := by
  have hd := (Parser.Parallel.whole hq).agree ha
  cases ha
  case nil => cases h
  case cons t i i' ts ts' ht ha =>
  rw [ofTokens_eq (List.cons_ne_nil _ _)] at h ⊢
  revert hd h
  generalize Parser.disjunction (Parser.operand maxNesting) (⟨t, i⟩ :: ts) = x
  generalize Parser.disjunction (Parser.operand maxNesting) (⟨t, i'⟩ :: ts') = y
  intro h hd
  cases hd
  case ok he hm =>
    cases hm
    case nil => cases h
    case cons hu _ => cases h
  case within hu hc => cases h
  case refused => cases h; rfl
  case welcome hw' => cases h; exact absurd hw' hw

end Expression
end Sequences
end Interpose.Pointcut
