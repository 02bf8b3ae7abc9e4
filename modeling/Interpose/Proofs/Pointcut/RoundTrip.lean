import Interpose.Proofs.Pointcut.Shown

namespace Interpose.Pointcut

open Outcome

section Texts

variable {text : String} {e : Expression} {p p' : Pointcut} {ts : List Located}

theorem parse_of_ofTokens {f : ParseFault} (ht : tokensOf text = .ok ts)
    (h : Expression.ofTokens ts = .error f) :
    Expression.parse text = .error (f.locate text) := by
  simp [Expression.parse, ht, h, Except.mapError, bind, Except.bind]

theorem expression_parse_eq_ok : Expression.parse text = .ok e ↔
    ∃ ts, tokensOf text = .ok ts ∧ Derives .disjunction maxNesting e ts := by
  simp only [← Expression.ofTokens_eq_ok]
  constructor
  case mp =>
    intro h
    obtain ⟨ts, ht, h⟩ := bind_eq_ok.mp (eq_ok_of_mapError h)
    exact ⟨ts, eq_ok_of_mapError ht, h⟩
  case mpr =>
    rintro ⟨ts, ht, h⟩
    simp [Expression.parse, ht, h, Except.mapError, bind, Except.bind]

-- The words of what is read are words of the text.
theorem readable_of_derives {level : Level} {room : Nat} (h : Derives level room e ts)
    (hp : ∀ t ∈ ts, t.token.Proper) : ∀ d ∈ e.leaves, d.Readable := by
  induction h
  case leaf d ts h =>
    intro d' hd
    cases List.mem_singleton.mp hd
    have he := h.eq_tokens
    refine ⟨he ▸ h, fun t ht => ?_⟩
    rw [← he] at ht
    obtain ⟨l, hl, rfl⟩ := List.mem_map.mp ht
    exact hp l hl
  case not hi         => exact hi (List.forall_mem_cons.mp hp).right
  case group hi       =>
    exact hi (List.forall_mem_append.mp (List.forall_mem_cons.mp hp).right).left
  case operand hi     => exact hi hp
  case conjunction hi => exact hi hp
  case and hl hr      =>
    obtain ⟨hpl, hpr⟩ := List.forall_mem_append.mp hp
    exact List.forall_mem_append.mpr ⟨hl hpl, hr (List.forall_mem_cons.mp hpr).right⟩
  case or hl hr       =>
    obtain ⟨hpl, hpr⟩ := List.forall_mem_append.mp hp
    exact List.forall_mem_append.mpr ⟨hl hpl, hr (List.forall_mem_cons.mp hpr).right⟩

theorem readable_of_parse (h : Expression.parse text = .ok e) : ∀ d ∈ e.leaves, d.Readable := by
  obtain ⟨ts, ht, hd⟩ := expression_parse_eq_ok.mp h
  exact readable_of_derives hd (proper_of_tokensFrom ht)

theorem leaves_expression : p.expression.leaves = p.leaves := by
  induction p
  case leaf      => rfl
  case not hi    => exact hi
  all_goals simp_all [expression, Expression.leaves, leaves]

-- A pointcut has no designators but those of its expression.
theorem MadeOf.readable (h : MadeOf e.branches p) (he : Expression.parse text = .ok e) :
    ∀ d ∈ p.leaves, d.Readable := by
  intro d hd
  rw [← leaves_expression, Expression.leaves_eq_flatMap,
    branches_ofSides (fun _ => Expression.branches_of_mem) h.sides] at hd
  obtain ⟨_, hm, hd⟩ := List.mem_flatMap.mp hd
  obtain ⟨b, hb, rfl⟩ := List.mem_map.mp hm
  rw [Expression.leaves_unplaced] at hd
  apply readable_of_parse he
  rw [Expression.leaves_eq_flatMap]
  exact List.mem_flatMap.mpr ⟨b, (mem_shown.mp hb).left, hd⟩

-- The text of a pointcut that is not too deep is read as what it shows.
theorem MadeOf.parse_text (h : MadeOf e.branches p) (hr : ∀ d ∈ p.leaves, d.Readable)
    (hn : p.nesting ≤ maxNesting) : parse p.text = .ok p' ↔ MadeOf (shown e.branches) p' := by
  obtain ⟨ts, ht, hts⟩ := (lexes_text hr).tokensOf
  obtain ⟨e', hd, he'⟩ := h.sided.constructible.derives hr hn hts
  have hp := expression_parse_eq_ok.mpr ⟨ts, ht, hd⟩
  have hb : e'.branches.map (·.unplaced) = (shown e.branches).map (·.unplaced) := by
    rw [← Expression.branches_unplaced, he',
      branches_ofSides (fun _ => Expression.branches_of_mem) h.sides]
  have hm : MadeOf e'.branches p' ↔ MadeOf (shown e.branches) p' := by
    rw [← map_unplaced, hb, map_unplaced]
  rw [parse_eq_ok, hp]
  simp [hm]

theorem MadeOf.parse_text_error (h : MadeOf e.branches p) (hr : ∀ d ∈ p.leaves, d.Readable)
    (hn : maxNesting < p.nesting) :
    ∃ position, parse p.text = .error (.syntactic ⟨p.text, .nesting, position⟩) := by
  obtain ⟨ts, ht, hts⟩ := (lexes_text hr).tokensOf
  obtain ⟨position, hp⟩ := Parser.Refuses.of_constructible h.sided.constructible hr hn hts
  have ho : Expression.ofTokens ts = .error ⟨.nesting, some position⟩ := by
    cases ts
    case nil  => cases hp
    case cons => simp [Expression.ofTokens, StateT.run, hp, bind, Except.bind]
  refine ⟨position, ?_⟩
  rw [parse, parse_of_ofTokens ht ho]
  rfl

end Texts

-- Unless the text of a pointcut is too deep, it is read as a pointcut like it.
theorem parse_text_alike {text : String} {p : Pointcut} (h : parse text = .ok p)
    (hn : p.nesting ≤ maxNesting) : ∃ p', parse p.text = .ok p' ∧ p'.Alike p := by
  obtain ⟨e, he, hp⟩ := parse_eq_ok.mp h
  obtain ⟨p', hp'⟩ := hp.exists_shown
  exact ⟨p', (hp.parse_text (hp.readable he) hn).mpr hp', hp.alike hp'⟩

-- The alternative without a domain is on both sides of the text.
theorem parse_text_alike_divergent :
    ∃ p, parse "execution(* save(..)) && !within(a.B) || autowire(*) || target(a.C)" = .ok p ∧
      p.nesting ≤ maxNesting ∧ ∃ p', parse p.text = .ok p' ∧ p'.Alike p := by
  have ho : (parse
      "execution(* save(..)) && !within(a.B) || autowire(*) || target(a.C)").toOption.any
        (·.nesting ≤ maxNesting) = true := by
    decide +kernel
  obtain ⟨p, h, hn⟩ := any_toOption.mp ho
  have hn := of_decide_eq_true hn
  exact ⟨p, h, hn, parse_text_alike h hn⟩

-- The text of a pointcut is read as the pointcut itself. But alternatives without a domain, which
-- stand on both sides of a divergent one, are added to both of them each time, and a text whose
-- parentheses are too deep is refused.
theorem parse_text_stable {text : String} {p : Pointcut} (h : parse text = .ok p) :
    ∃ e, Expression.parse text = .ok e ∧
      (p.nesting ≤ maxNesting → ∃ p', parse p.text = .ok p' ∧
        (¬(p.crossesDomains = true ∧ ∃ b ∈ e.branches, b.isNeutral = true) → p' = p) ∧
        (p.crossesDomains = true → (∃ b ∈ e.branches, b.isNeutral = true) →
          p.text.length < p'.text.length)) ∧
      (maxNesting < p.nesting →
        ∃ position, parse p.text = .error (.syntactic ⟨p.text, .nesting, position⟩)) := by
  obtain ⟨e, he, hp⟩ := parse_eq_ok.mp h
  refine ⟨e, he, fun hn => ?_, hp.parse_text_error (hp.readable he)⟩
  obtain ⟨p', hp'⟩ := hp.exists_shown
  have ht := (hp.parse_text (hp.readable he) hn).mpr hp'
  exact ⟨p', ht, hp.eq_of_shown hp', hp.length_lt_of_shown hp'⟩

theorem parse_text_stable_divergent :
    ∃ p, parse "execution(* save(..)) || autowire(a.B) || !within(a.B)" = .ok p ∧
    ∃ e, Expression.parse "execution(* save(..)) || autowire(a.B) || !within(a.B)" = .ok e ∧
      (p.nesting ≤ maxNesting → ∃ p', parse p.text = .ok p' ∧
        (¬(p.crossesDomains = true ∧ ∃ b ∈ e.branches, b.isNeutral = true) → p' = p) ∧
        (p.crossesDomains = true → (∃ b ∈ e.branches, b.isNeutral = true) →
          p.text.length < p'.text.length)) ∧
      (maxNesting < p.nesting →
        ∃ position, parse p.text = .error (.syntactic ⟨p.text, .nesting, position⟩)) := by
  have ho : (parse "execution(* save(..)) || autowire(a.B) || !within(a.B)").isOk := by
    decide +kernel
  obtain ⟨p, h⟩ := isOk_iff.mp ho
  exact ⟨p, h, parse_text_stable h⟩

-- A text grows when it is read and shown again, and another one is not even read again.
theorem parse_text_unstable :
    (∃ p p', parse "execution(* save(..)) || autowire(*) || target(a.C)" = .ok p ∧
      parse p.text = .ok p' ∧ p'.text ≠ p.text) ∧
    ∃ p, parse (String.ofList (List.replicate 63 '!') ++ "(within(A) && within(B) && within(C))") =
        .ok p ∧
      ∀ p', parse p.text ≠ .ok p' := by
  constructor
  case left =>
    have ho : (parse "execution(* save(..)) || autowire(*) || target(a.C)").toOption.any
        (fun p => (parse p.text).toOption.any (·.text != p.text)) = true := by
      decide +kernel
    obtain ⟨p, h, ho⟩ := any_toOption.mp ho
    obtain ⟨p', h', hn⟩ := any_toOption.mp ho
    exact ⟨p, p', h, h', bne_iff_ne.mp hn⟩
  case right =>
    have ho : (parse (String.ofList (List.replicate 63 '!') ++
        "(within(A) && within(B) && within(C))")).toOption.any (fun p => !(parse p.text).isOk) =
          true := by
      decide +kernel
    obtain ⟨p, h, ho⟩ := any_toOption.mp ho
    refine ⟨p, h, fun p' hp' => ?_⟩
    rw [hp'] at ho
    cases ho

end Interpose.Pointcut
