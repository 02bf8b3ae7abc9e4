import Interpose.Pointcut.Expression.Parser
import Interpose.Proofs.Outcome
import Interpose.Proofs.Pointcut.Spelling

namespace Interpose.Pointcut

-- The first of the tokens that are left.
def ahead (ts : List Located) : Option Token := ts.head?.map (·.token)

theorem map_token_eq_cons {ts : List Located} {t : Token} {us : List Token} :
    ts.map (·.token) = t :: us ↔
      ∃ position ts', ts = ⟨t, position⟩ :: ts' ∧ ts'.map (·.token) = us := by
  rw [List.map_eq_cons_iff]
  constructor
  case mp  => rintro ⟨⟨_, position⟩, ts, rfl, rfl, h⟩; exact ⟨position, ts, rfl, h⟩
  case mpr => rintro ⟨position, ts, rfl, h⟩; exact ⟨_, ts, rfl, rfl, h⟩

theorem map_token_eq_append {ts : List Located} {t : Token} {us vs : List Token} :
    ts.map (·.token) = us ++ t :: vs ↔ ∃ ts' position ts'', ts = ts' ++ ⟨t, position⟩ :: ts'' ∧
      ts'.map (·.token) = us ∧ ts''.map (·.token) = vs := by
  simp only [List.map_eq_append_iff, map_token_eq_cons]
  constructor
  case mp =>
    rintro ⟨ts', _, rfl, hu, position, ts'', rfl, hv⟩
    exact ⟨ts', position, ts'', rfl, hu, hv⟩
  case mpr =>
    rintro ⟨ts', position, ts'', rfl, hu, hv⟩
    exact ⟨ts', _, rfl, hu, position, ts'', rfl, hv⟩

theorem ahead_eq_some {ts : List Located} {t : Token} :
    ahead ts = some t ↔ ∃ position ts', ts = ⟨t, position⟩ :: ts' := by
  constructor
  case mp =>
    intro h
    rcases ts with _ | ⟨⟨_, position⟩, ts⟩
    case nil  => cases h
    case cons => cases h; exact ⟨position, ts, rfl⟩
  case mpr => rintro ⟨_, _, rfl⟩; rfl

namespace Parser

variable {α β : Type} {ts rest : List Located}

theorem bind_eq_ok {x : Parser α} {f : α → Parser β} {b : β} :
    (x >>= f) ts = .ok (b, rest) ↔ ∃ a mid, x ts = .ok (a, mid) ∧ f a mid = .ok (b, rest) := by
  change (x ts >>= fun p => f p.1 p.2) = _ ↔ _
  rw [Outcome.bind_eq_ok]
  simp only [Prod.exists]

theorem bind_of_ok {x : Parser α} {f : α → Parser β} {a : α} (h : x ts = .ok (a, rest)) :
    (x >>= f) ts = f a rest := by
  change (x ts >>= fun p => f p.1 p.2) = _
  rw [h]
  rfl

@[simp]
theorem pure_eq_ok {a b : α} : (pure a : Parser α) ts = .ok (b, rest) ↔ a = b ∧ ts = rest := by
  change (Except.ok (a, ts) : Except ParseFault _) = _ ↔ _
  simp

@[simp]
theorem failAt_ne_ok {fault : SyntaxFault} {position : Nat} {b : α} :
    failAt fault position ts ≠ .ok (b, rest) :=
  nofun

@[simp]
theorem unexpected_ne_ok {wanted : Wanted} {b : α} : unexpected wanted ts ≠ .ok (b, rest) := by
  cases ts <;> exact nofun

theorem get_bind {f : List Located → Parser α} : (get >>= f) ts = f ts ts :=
  rfl

theorem set_bind {f : PUnit → Parser α} {mid : List Located} : (set mid >>= f) ts = f ⟨⟩ mid :=
  rfl

@[simp]
theorem set_eq_ok {mid : List Located} {u : PUnit} :
    (set mid : Parser PUnit) ts = .ok (u, rest) ↔ mid = rest := by
  have h : (set mid : Parser PUnit) ts = .ok (⟨⟩, mid) := rfl
  simp [h]

theorem expect_eq_ok {token : Token} {wanted : Wanted} {u : Unit} :
    expect token wanted ts = .ok (u, rest) ↔ ∃ position, ts = ⟨token, position⟩ :: rest := by
  rw [expect, get_bind]
  rcases ts with _ | ⟨⟨t, position⟩, ts⟩
  case nil => simp
  case cons =>
    by_cases h : t = token
    case pos => simp [h]
    case neg => simp [h]

theorem word_eq_ok {wanted : Wanted} {w : String} {position : Nat} :
    word wanted ts = .ok ((w, position), rest) ↔ ts = ⟨.word w, position⟩ :: rest := by
  rw [word, get_bind]
  rcases ts with _ | ⟨⟨t, position'⟩, ts⟩
  case nil => simp
  case cons => cases t <;> simp [set_bind]

theorem hasDots_iff {s : List Char} : hasDots s = true ↔ ['.', '.'] <:+: s := by
  fun_induction hasDots s
  case case1 => simp [List.infix_cons_iff]
  case case2 c s hn hi =>
    rw [hi, List.infix_cons_iff]
    refine (or_iff_right ?_).symm
    rintro ⟨r, hr⟩
    cases hr
    exact hn r rfl rfl
  case case3 => simp

-- A plus stands before the end of a text unless its first plus is at the end.
theorem plus_not_mem_dropLast {before after : List Char} (hb : '+' ∉ before) :
    '+' ∉ (before ++ '+' :: after).dropLast ↔ after = [] := by
  cases after
  case nil => simpa using hb
  case cons c s => simp [List.dropLast_append_of_ne_nil]

theorem typeOf_eq_ok {w : String} {position : Nat} {covariance : Bool} {p : TypePattern} :
    typeOf w position covariance ts = .ok (p, rest) ↔
      (TypeWord covariance w ∧ .parse w = p) ∧ ts = rest := by
  unfold typeOf
  by_cases hd : ['.', '.'] <:+: w.toList
  case pos =>
    have hn : ¬TypeWord covariance w := fun hw => hw.dots hd
    simp [hasDots_iff.mpr hd, hn]
  case neg =>
    rw [if_neg (mt hasDots_iff.mp hd)]
    by_cases hp : '+' ∈ w.toList
    case neg =>
      have hf : w.toList.findIdx? (· == '+') = none := by
        simp only [List.findIdx?_eq_none_iff, beq_eq_false_iff_ne]
        exact fun c hc he => hp (he ▸ hc)
      have hw : TypeWord covariance w :=
        ⟨hd, fun h => hp (List.dropLast_subset _ h), fun h => (hp h).elim⟩
      simp [hf, hw, and_comm]
    case pos =>
      obtain ⟨before, after, hs, hb⟩ := List.eq_append_cons_of_mem hp
      have hf : w.toList.findIdx? (· == '+') = some before.length := by
        have hn : before.findIdx? (· == '+') = none := by
          simp only [List.findIdx?_eq_none_iff, beq_eq_false_iff_ne]
          exact fun c hc he => hb (he ▸ hc)
        simp [hs, List.findIdx?_append, hn, List.findIdx?_cons]
      have hl : before.length + 1 = w.length ↔ after = [] := by
        rw [← String.length_toList, hs]
        simp
      have hw : TypeWord covariance w ↔ covariance = true ∧ after = [] :=
        ⟨fun hw => ⟨hw.last hp, (plus_not_mem_dropLast hb).mp (hs ▸ hw.plus)⟩,
          fun ⟨hc, ha⟩ => ⟨hd, hs ▸ (plus_not_mem_dropLast hb).mpr ha, fun _ => hc⟩⟩
      simp only [hf, hw, Bool.and_eq_true, beq_iff_eq, hl]
      split
      case isTrue h  => simp [h, and_comm]
      case isFalse h => simp [h]

theorem typeShape_eq_ok {wanted : Wanted} {covariance : Bool} {p : TypePattern} :
    typeShape wanted covariance ts = .ok (p, rest) ↔
      ∃ w position, TypeWord covariance w ∧ .parse w = p ∧ ts = ⟨.word w, position⟩ :: rest := by
  rw [typeShape, bind_eq_ok]
  simp only [Prod.exists, word_eq_ok, typeOf_eq_ok]
  constructor
  case mp =>
    rintro ⟨w, position, _, rfl, ⟨hw, rfl⟩, rfl⟩
    exact ⟨w, position, hw, rfl, rfl⟩
  case mpr =>
    rintro ⟨w, position, hw, rfl, rfl⟩
    exact ⟨w, position, rest, rfl, ⟨hw, rfl⟩, rfl⟩

theorem methodName_eq_ok {w : String} {position : Nat} {p : NamePattern} :
    methodName w position ts = .ok (p, rest) ↔ (NameWord w ∧ .parse w = p) ∧ ts = rest := by
  have hw : NameWord w ↔ ¬(w.isEmpty || w.toList.contains '+') = true := by
    simp only [Bool.or_eq_true, String.isEmpty_iff, List.contains_iff_mem, not_or]
    exact ⟨fun h => ⟨h.nonempty, h.plain⟩, fun h => ⟨h.left, h.right⟩⟩
  rw [methodName]
  by_cases h : NameWord w
  case pos =>
    rw [if_neg (hw.mp h)]
    simp [h, and_comm]
  case neg =>
    rw [if_pos (not_not.mp (mt hw.mpr h))]
    simp [h]

theorem qualifiedName_eq_ok {w : String} {position : Nat} {p : Option TypePattern × NamePattern} :
    qualifiedName w position ts = .ok (p, rest) ↔ MethodWord w p.1 p.2 ∧ ts = rest := by
  obtain ⟨t?, n⟩ := p
  rw [qualifiedName]
  cases h : splitQualified w
  case none =>
    simp only [bind_eq_ok, methodName_eq_ok, pure_eq_ok, methodWord_bare h, Prod.mk.injEq]
    constructor
    case mp =>
      rintro ⟨_, _, ⟨⟨hw, rfl⟩, rfl⟩, ⟨rfl, rfl⟩, rfl⟩
      exact ⟨⟨hw, rfl, rfl⟩, rfl⟩
    case mpr =>
      rintro ⟨⟨hw, rfl, rfl⟩, rfl⟩
      exact ⟨_, _, ⟨⟨hw, rfl⟩, rfl⟩, ⟨rfl, rfl⟩, rfl⟩
  case some q =>
    simp only [bind_eq_ok, typeOf_eq_ok, methodName_eq_ok, pure_eq_ok, methodWord_declared h,
      Prod.mk.injEq]
    constructor
    case mp =>
      rintro ⟨_, _, ⟨⟨ht, rfl⟩, rfl⟩, _, _, ⟨⟨hw, rfl⟩, rfl⟩, ⟨rfl, rfl⟩, rfl⟩
      exact ⟨⟨ht, hw, rfl, rfl⟩, rfl⟩
    case mpr =>
      rintro ⟨⟨ht, hw, rfl, rfl⟩, rfl⟩
      exact ⟨_, _, ⟨⟨ht, rfl⟩, rfl⟩, _, _, ⟨⟨hw, rfl⟩, rfl⟩, ⟨rfl, rfl⟩, rfl⟩

theorem param_eq_ok {p : ParamPattern} :
    param ts = .ok (p, rest) ↔ ∃ w position, ParamWord w p ∧ ts = ⟨.word w, position⟩ :: rest := by
  have hone : ∀ {w p}, w ≠ ".." → (ParamWord w p ↔ TypeWord true w ∧ p = .one (.parse w)) := by
    intro w p hw
    constructor
    case mp  => rintro (_ | h); exacts [(hw rfl).elim, ⟨h, rfl⟩]
    case mpr => rintro ⟨h, rfl⟩; exact .one h
  have hrest : ∀ {p}, ParamWord ".." p ↔ p = .rest := by
    intro p
    constructor
    case mp  => rintro (_ | h); exacts [rfl, (h.dots (by decide)).elim]
    case mpr => rintro rfl; exact .rest
  rw [param, bind_eq_ok]
  simp only [Prod.exists, word_eq_ok]
  refine exists_congr fun w => exists_congr fun position => ?_
  by_cases hw : w = ".."
  case pos =>
    subst hw
    simp only [if_true, pure_eq_ok, hrest]
    grind
  case neg =>
    simp only [if_neg hw, bind_eq_ok, typeOf_eq_ok, pure_eq_ok, hone hw]
    grind

section Params

variable {ps : List ParamPattern} {bound : Nat}

theorem moreParams_eq_of_not_ahead (h : ahead ts ≠ some .comma) :
    moreParams bound ts = .ok ([], ts) := by
  cases bound
  case zero => rfl
  case succ =>
    rcases ts with _ | ⟨⟨token, position⟩, ts⟩
    case nil  => rfl
    case cons =>
      cases token
      case comma => exact (h rfl).elim
      all_goals rfl

theorem moreParams_of_not_ahead (h : ahead ts ≠ some .comma) :
    moreParams bound ts = .ok (ps, rest) ↔ ps = [] ∧ rest = ts := by
  rw [moreParams_eq_of_not_ahead h]
  simp [eq_comm]

theorem moreParams_comma {position : Nat} :
    moreParams (bound + 1) (⟨.comma, position⟩ :: ts) = .ok (ps, rest) ↔
      ∃ p ps' w position mid, ps = p :: ps' ∧ ts = ⟨.word w, position⟩ :: mid ∧ ParamWord w p ∧
        moreParams bound mid = .ok (ps', rest) := by
  rw [moreParams, get_bind]
  simp only [set_bind, bind_eq_ok, param_eq_ok, pure_eq_ok]
  grind

-- The words that are left are read up to the first token that is no comma.
theorem moreParams_eq_ok (hb : ts.length ≤ bound) :
    moreParams bound ts = .ok (ps, rest) ↔
      ahead rest ≠ some .comma ∧ ∃ used ws, ts = used ++ rest ∧
        used.map (·.token) = behindCommas ws ∧ List.Forall₂ ParamWord ws ps := by
  induction bound generalizing ts ps
  case zero =>
    cases List.eq_nil_of_length_eq_zero (Nat.le_zero.mp hb)
    have hn : ahead [] ≠ some .comma := by simp [ahead]
    rw [moreParams_of_not_ahead hn]
    constructor
    case mp  => rintro ⟨rfl, rfl⟩; exact ⟨hn, [], [], rfl, rfl, .nil⟩
    case mpr =>
      rintro ⟨_, used, ws, h, hu, hp⟩
      obtain ⟨rfl, rfl⟩ := List.append_eq_nil_iff.mp h.symm
      cases hp
      case nil  => exact ⟨rfl, rfl⟩
      case cons => cases hu
  case succ bound hi =>
    by_cases h : ahead ts = some .comma
    case neg =>
      rw [moreParams_of_not_ahead h]
      constructor
      case mp  => rintro ⟨rfl, rfl⟩; exact ⟨h, [], [], rfl, rfl, .nil⟩
      case mpr =>
        rintro ⟨_, used, ws, rfl, hu, hp⟩
        cases hp
        case nil =>
          cases List.map_eq_nil_iff.mp hu
          exact ⟨rfl, rfl⟩
        case cons =>
          obtain ⟨_, _, rfl, _⟩ := map_token_eq_cons.mp hu
          exact (h rfl).elim
    case pos =>
      rcases ts with _ | ⟨⟨token, position⟩, ts⟩
      case nil => cases h
      case cons =>
        cases h
        rw [moreParams_comma]
        constructor
        case mp =>
          rintro ⟨p, ps, w, position', mid, rfl, rfl, hw, h⟩
          have hl : mid.length ≤ bound := by simp at hb; omega
          obtain ⟨hr, used, ws, rfl, hu, hp⟩ := (hi hl).mp h
          refine ⟨hr, ⟨.comma, position⟩ :: ⟨.word w, position'⟩ :: used, w :: ws, rfl, ?_,
            .cons hw hp⟩
          simpa [behindCommas] using hu
        case mpr =>
          rintro ⟨hr, used, ws, hs, hu, hp⟩
          cases hp
          case nil =>
            cases List.map_eq_nil_iff.mp hu
            rw [List.nil_append] at hs
            exact (hr (hs ▸ rfl)).elim
          case cons w p ws ps hw hp =>
            obtain ⟨_, _, rfl, hu'⟩ := map_token_eq_cons.mp hu
            obtain ⟨position', used, rfl, hw'⟩ := map_token_eq_cons.mp hu'
            cases hs
            have hl : (used ++ rest).length ≤ bound := by simp at hb ⊢; omega
            have h := (hi hl).mpr ⟨hr, used, ws, rfl, hw', hp⟩
            exact ⟨p, ps, w, position', used ++ rest, rfl, rfl, hw, h⟩

theorem params_of_close {position : Nat} :
    params (⟨.closeParen, position⟩ :: ts) = .ok (ps, rest) ↔
      ps = [] ∧ rest = ⟨.closeParen, position⟩ :: ts := by
  have h : params (⟨.closeParen, position⟩ :: ts) = .ok ([], ⟨.closeParen, position⟩ :: ts) := rfl
  rw [h]
  simp [eq_comm]

theorem params_eq_of_not_close (h : ahead ts ≠ some .closeParen) :
    params ts = (do
      let p ← param
      return p :: (← moreParams ts.length) : Parser (List ParamPattern)) ts := by
  rw [params, get_bind]
  rcases ts with _ | ⟨⟨token, position⟩, ts⟩
  case nil => rfl
  case cons =>
    cases token
    case closeParen => exact (h rfl).elim
    all_goals rfl

theorem params_of_not_close (h : ahead ts ≠ some .closeParen) : params ts = .ok (ps, rest) ↔
    ∃ p ps' w position mid, ps = p :: ps' ∧ ParamWord w p ∧ ts = ⟨.word w, position⟩ :: mid ∧
      moreParams ts.length mid = .ok (ps', rest) := by
  rw [params_eq_of_not_close h]
  simp only [bind_eq_ok, param_eq_ok, pure_eq_ok]
  grind

-- A list of parameters that ends at a closing parenthesis.
theorem params_eq_ok {position : Nat} : params ts = .ok (ps, ⟨.closeParen, position⟩ :: rest) ↔
    ∃ used ws, ts = used ++ ⟨.closeParen, position⟩ :: rest ∧
      used.map (·.token) = separated ws ∧ List.Forall₂ ParamWord ws ps := by
  by_cases h : ahead ts = some .closeParen
  case pos =>
    rcases ts with _ | ⟨⟨token, position'⟩, ts⟩
    case nil => cases h
    case cons =>
      cases h
      rw [params_of_close]
      constructor
      case mp =>
        rintro ⟨rfl, h⟩
        exact ⟨[], [], h.symm, rfl, .nil⟩
      case mpr =>
        rintro ⟨used, ws, hs, hu, hp⟩
        cases hp
        case nil =>
          cases List.map_eq_nil_iff.mp hu
          exact ⟨rfl, hs.symm⟩
        case cons =>
          obtain ⟨_, _, rfl, _⟩ := map_token_eq_cons.mp hu
          cases hs
  case neg =>
    rw [params_of_not_close h]
    constructor
    case mp =>
      rintro ⟨p, ps, w, i, mid, rfl, hw, rfl, hm⟩
      obtain ⟨_, used, ws, rfl, hu, hp⟩ := (moreParams_eq_ok (by simp)).mp hm
      exact ⟨⟨.word w, i⟩ :: used, w :: ws, rfl, congrArg _ hu, .cons hw hp⟩
    case mpr =>
      rintro ⟨used, ws, rfl, hu, hp⟩
      cases hp
      case nil =>
        cases List.map_eq_nil_iff.mp hu
        exact (h rfl).elim
      case cons w p ws ps hw hp =>
        obtain ⟨i, used, rfl, hu'⟩ := map_token_eq_cons.mp hu
        refine ⟨p, ps, w, i, _, rfl, hw, rfl, (moreParams_eq_ok (by simp)).mpr ?_⟩
        refine ⟨?_, _, ws, rfl, hu', hp⟩
        simp [ahead]

end Params

theorem methodShape_eq_ok {p : MethodPattern} : methodShape ts = .ok (p, rest) ↔
    ∃ used, ts = used ++ rest ∧ MethodSpelling p (used.map (·.token)) := by
  rw [methodShape]
  simp only [bind_eq_ok, Prod.exists, typeShape_eq_ok, word_eq_ok, qualifiedName_eq_ok,
    expect_eq_ok, pure_eq_ok]
  constructor
  case mp =>
    rintro ⟨_, _, ⟨r, i, hr, rfl, rfl⟩, q, j, _, rfl, _, name, _, ⟨hq, rfl⟩, _, _, ⟨k, rfl⟩,
      ps, _, hp, _, _, ⟨l, rfl⟩, rfl, rfl⟩
    obtain ⟨used, ws, rfl, hu, hp⟩ := params_eq_ok.mp hp
    refine ⟨⟨.word r, i⟩ :: ⟨.word q, j⟩ :: ⟨.openParen, k⟩ :: (used ++ [⟨.closeParen, l⟩]),
      by simp, ?_⟩
    simpa [hu] using MethodSpelling.intro hr hq hp
  case mpr =>
    rintro ⟨used, rfl, hs⟩
    generalize hu : used.map (·.token) = us at hs
    cases hs
    case intro r q t? n ws ps hr hq hp =>
      simp only [map_token_eq_cons, List.map_eq_append_iff, List.map_eq_nil_iff] at hu
      obtain ⟨i, _, rfl, j, _, rfl, k, _, rfl, used, _, rfl, hu, l, _, rfl, rfl⟩ := hu
      have hps : params (used ++ ⟨.closeParen, l⟩ :: rest) = .ok (ps, ⟨.closeParen, l⟩ :: rest) :=
        params_eq_ok.mpr ⟨used, ws, rfl, hu, hp⟩
      refine ⟨_, _, ⟨r, i, hr, rfl, rfl⟩, q, j, _, rfl, _, _, _, ⟨hq, rfl⟩, ⟨⟩, _, ⟨k, rfl⟩,
        ps, _, ?_, ⟨⟩, _, ⟨l, rfl⟩, rfl, rfl⟩
      simpa using hps

theorem fieldName_eq_ok {w : String} {position : Nat} {p : NamePattern} :
    fieldName w position ts = .ok (p, rest) ↔ (FieldWord w ∧ .parse w = p) ∧ ts = rest := by
  have hw : FieldWord w ↔ ¬(w.toList.contains '.' || w.toList.contains '+') = true := by
    simp only [Bool.or_eq_true, List.contains_iff_mem, not_or]
    exact ⟨fun h => ⟨h.dots, h.plain⟩, fun h => ⟨h.left, h.right⟩⟩
  rw [fieldName]
  by_cases h : FieldWord w
  case pos =>
    rw [if_neg (hw.mp h)]
    simp [h, and_comm]
  case neg =>
    rw [if_pos (not_not.mp (mt hw.mpr h))]
    simp [h]

-- The shape of a field ends at a closing parenthesis.
theorem fieldShape_eq_ok {p : FieldPattern} {position : Nat} :
    fieldShape ts = .ok (p, ⟨.closeParen, position⟩ :: rest) ↔
      ∃ used, ts = used ++ ⟨.closeParen, position⟩ :: rest ∧
        FieldSpelling p (used.map (·.token)) := by
  rw [fieldShape]
  simp only [bind_eq_ok, typeShape_eq_ok, get_bind]
  constructor
  case mp =>
    rintro ⟨_, mid, ⟨t, i, ht, rfl, rfl⟩, h⟩
    split at h
    case h_1 n j mid =>
      simp only [set_bind, bind_eq_ok, fieldName_eq_ok, pure_eq_ok] at h
      obtain ⟨_, _, ⟨⟨hn, rfl⟩, rfl⟩, rfl, rfl⟩ := h
      exact ⟨[⟨.word t, i⟩, ⟨.word n, j⟩], rfl, .named ht hn⟩
    case h_2 =>
      obtain ⟨rfl, rfl⟩ := pure_eq_ok.mp h
      exact ⟨[⟨.word t, i⟩], rfl, .anyName ht⟩
  case mpr =>
    rintro ⟨used, rfl, hs⟩
    generalize hu : used.map (·.token) = us at hs
    cases hs <;> simp only [map_token_eq_cons, List.map_eq_nil_iff] at hu
    case anyName t ht =>
      obtain ⟨i, _, rfl, rfl⟩ := hu
      exact ⟨_, _, ⟨t, i, ht, rfl, rfl⟩, rfl⟩
    case named t n ht hn =>
      obtain ⟨i, _, rfl, j, _, rfl, rfl⟩ := hu
      refine ⟨_, ⟨.word n, j⟩ :: ⟨.closeParen, position⟩ :: rest, ⟨t, i, ht, rfl, rfl⟩, ?_⟩
      simp only [set_bind, bind_eq_ok, fieldName_eq_ok, pure_eq_ok]
      exact ⟨_, _, ⟨⟨hn, rfl⟩, rfl⟩, rfl, rfl⟩

section Designators

variable {d : Designator} {name : String} {position : Nat}

theorem designatorNamed_eq_ok {close : Nat} :
    designatorNamed name position ts = .ok (d, ⟨.closeParen, close⟩ :: rest) ↔
      ∃ used, ts = used ++ ⟨.closeParen, close⟩ :: rest ∧ d.Inside name (used.map (·.token)) := by
  constructor
  case mp =>
    intro h
    unfold designatorNamed at h
    split at h <;>
      simp only [bind_eq_ok, methodShape_eq_ok, typeShape_eq_ok, pure_eq_ok, failAt_ne_ok] at h
    case h_1 =>
      obtain ⟨_, _, ⟨used, rfl, hs⟩, rfl, rfl⟩ := h
      exact ⟨used, rfl, .execution hs⟩
    case h_2 =>
      obtain ⟨_, _, hs, rfl, rfl⟩ := h
      obtain ⟨used, rfl, hf⟩ := fieldShape_eq_ok.mp hs
      exact ⟨used, rfl, .autowire hf⟩
    case h_3 =>
      obtain ⟨_, _, ⟨w, i, hw, rfl, rfl⟩, rfl, rfl⟩ := h
      exact ⟨[⟨.word w, i⟩], rfl, .within hw⟩
    case h_4 =>
      obtain ⟨_, _, ⟨w, i, hw, rfl, rfl⟩, rfl, rfl⟩ := h
      exact ⟨[⟨.word w, i⟩], rfl, .target hw⟩
  case mpr =>
    rintro ⟨used, rfl, h⟩
    generalize hu : used.map (·.token) = us at h
    cases h <;> simp only [designatorNamed, bind_eq_ok, pure_eq_ok]
    case execution p hs =>
      exact ⟨p, _, methodShape_eq_ok.mpr ⟨used, rfl, hu ▸ hs⟩, rfl, rfl⟩
    case autowire p hs =>
      exact ⟨p, _, fieldShape_eq_ok.mpr ⟨used, rfl, hu ▸ hs⟩, rfl, rfl⟩
    all_goals
      rename TypeWord true _ => hw
      simp only [map_token_eq_cons, List.map_eq_nil_iff] at hu
      obtain ⟨i, _, rfl, rfl⟩ := hu
      exact ⟨_, _, typeShape_eq_ok.mpr ⟨_, i, hw, rfl, rfl⟩, rfl, rfl⟩

theorem annotationDesignator_eq_ok : annotationDesignator ts = .ok (d, rest) ↔
    ∃ used name w, ts = used ++ rest ∧ TypeWord false w ∧ d.Annotated name (.parse w) ∧
      used.map (·.token) = [.word name, .openParen, .word w, .closeParen] := by
  unfold annotationDesignator
  simp only [bind_eq_ok, Prod.exists, word_eq_ok, expect_eq_ok, typeShape_eq_ok]
  constructor
  case mp =>
    rintro ⟨name, i, _, rfl, _, _, ⟨j, rfl⟩, _, _, ⟨w, k, hw, rfl, rfl⟩, _, mid, ⟨l, rfl⟩, h⟩
    have hd : d.Annotated name (.parse w) ∧ mid = rest := by
      split at h <;> simp only [pure_eq_ok, failAt_ne_ok] at h <;> obtain ⟨rfl, hr⟩ := h
      exacts [⟨.within _, hr⟩, ⟨.target _, hr⟩, ⟨.execution _, hr⟩, ⟨.autowire _, hr⟩]
    obtain ⟨hd, rfl⟩ := hd
    exact ⟨[⟨.word name, i⟩, ⟨.openParen, j⟩, ⟨.word w, k⟩, ⟨.closeParen, l⟩], name, w, rfl, hw, hd,
      rfl⟩
  case mpr =>
    rintro ⟨used, name, w, rfl, hw, hd, hu⟩
    simp only [map_token_eq_cons, List.map_eq_nil_iff] at hu
    obtain ⟨i, _, rfl, j, _, rfl, k, _, rfl, l, _, rfl, rfl⟩ := hu
    refine ⟨name, i, _, rfl, ⟨⟩, _, ⟨j, rfl⟩, _, _, ⟨w, k, hw, rfl, rfl⟩, ⟨⟩, _, ⟨l, rfl⟩, ?_⟩
    cases hd <;> rfl

-- A designator is read from the tokens that spell it and from no others.
theorem designator_eq_ok : designator ts = .ok (d, rest) ↔
    ∃ used, ts = used ++ rest ∧ d.Spelled (used.map (·.token)) := by
  rw [designator, get_bind]
  constructor
  case mp =>
    intro h
    split at h
    case h_1 i ts =>
      obtain ⟨used, name, w, rfl, hw, hd, hu⟩ := annotationDesignator_eq_ok.mp h
      refine ⟨⟨.atSign, i⟩ :: used, rfl, ?_⟩
      simpa [hu] using Designator.Spelled.annotated hw hd
    case h_2 name i ts =>
      simp only [set_bind, bind_eq_ok, expect_eq_ok, pure_eq_ok] at h
      obtain ⟨_, _, ⟨j, rfl⟩, _, _, h, _, _, ⟨k, rfl⟩, rfl, rfl⟩ := h
      obtain ⟨used, rfl, hi⟩ := designatorNamed_eq_ok.mp h
      refine ⟨⟨.word name, i⟩ :: ⟨.openParen, j⟩ :: (used ++ [⟨.closeParen, k⟩]), by simp, ?_⟩
      simpa using Designator.Spelled.plain hi
    case h_3 => exact (unexpected_ne_ok h).elim
  case mpr =>
    rintro ⟨used, rfl, h⟩
    generalize hu : used.map (·.token) = us at h
    cases h <;> simp only [map_token_eq_cons, List.map_eq_nil_iff, List.map_eq_append_iff] at hu
    case plain name ts hi =>
      obtain ⟨i, _, rfl, j, _, rfl, used, _, rfl, hu, k, _, rfl, rfl⟩ := hu
      have h : designatorNamed name i (used ++ ⟨.closeParen, k⟩ :: rest) =
          .ok (d, ⟨.closeParen, k⟩ :: rest) :=
        designatorNamed_eq_ok.mpr ⟨used, rfl, hu ▸ hi⟩
      simp only [List.cons_append, List.append_assoc, List.nil_append, set_bind, bind_eq_ok,
        expect_eq_ok, pure_eq_ok]
      exact ⟨⟨⟩, _, ⟨j, rfl⟩, d, _, h, ⟨⟩, _, ⟨k, rfl⟩, rfl, rfl⟩
    case annotated name w hw hd =>
      obtain ⟨h, _, rfl, i, _, rfl, j, _, rfl, k, _, rfl, l, _, rfl, rfl⟩ := hu
      exact annotationDesignator_eq_ok.mpr
        ⟨[⟨.word name, i⟩, ⟨.openParen, j⟩, ⟨.word w, k⟩, ⟨.closeParen, l⟩], name, w, rfl, hw, hd,
          rfl⟩

end Designators

end Parser
end Interpose.Pointcut
