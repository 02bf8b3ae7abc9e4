import Interpose.Proofs.Pointcut.Covariance
import Interpose.Proofs.Pointcut.RoundTrip

namespace Interpose.Pointcut

-- The text has two dots side by side.
def HasDots (w : String) : Prop :=
  ['.', '.'] <:+: w.toList

instance (w : String) : Decidable (HasDots w) :=
  inferInstanceAs (Decidable (['.', '.'] <:+: w.toList))

-- A condition on each word of a token sequence, with the tokens before the word and behind it.
structure EachWord (P : List Token → String → List Token → Prop) (ts : List Token) : Prop where
  holds : ∀ before w behind, ts = before ++ .word w :: behind → P before w behind

namespace EachWord

variable {P Q : List Token → String → List Token → Prop} {t : Token} {ts us : List Token}

theorem imp (h : EachWord P ts) (hi : ∀ before w behind, P before w behind → Q before w behind) :
    EachWord Q ts where
  holds before w behind hs := hi before w behind (h.holds before w behind hs)

theorem nil : EachWord P [] where
  holds before w behind h := by simp at h

theorem word {w : String} (hw : P [] w ts) (h : EachWord (fun before => P (.word w :: before)) ts) :
    EachWord P (.word w :: ts) := by
  constructor
  intro before w behind hs
  cases before <;> cases hs
  case nil  => exact hw
  case cons => exact h.holds _ w behind rfl

theorem other (ht : ∀ w, t ≠ .word w) (h : EachWord (fun before => P (t :: before)) ts) :
    EachWord P (t :: ts) := by
  constructor
  intro before w behind hs
  cases before <;> cases hs
  case nil  => exact absurd rfl (ht w)
  case cons => exact h.holds _ w behind rfl

theorem append (ht : EachWord (fun before w behind => P before w (behind ++ us)) ts)
    (hu : EachWord (fun before => P (ts ++ before)) us) : EachWord P (ts ++ us) := by
  constructor
  intro before w behind hs
  cases List.append_eq_append_iff.mp hs
  case inl h =>
    have ⟨mid, hb, hu'⟩ := h
    exact hb ▸ hu.holds mid w behind hu'
  case inr h =>
    have ⟨mid, ht', hb⟩ := h
    cases mid
    case nil =>
      have hp := hu.holds [] w behind (by simpa using hb.symm)
      simpa [ht'] using hp
    case cons =>
      cases hb
      exact ht.holds before w _ ht'

end EachWord

-- The words of a list, each with what stands around it.
theorem eachWord_separated {P : List Token → String → List Token → Prop} {ws : List String}
    (h : ∀ us w vs, ws = us ++ w :: vs →
      P (us.flatMap fun u => [.word u, .comma]) w (behindCommas vs)) :
    EachWord P (separated ws) := by
  induction ws generalizing P
  case nil => exact .nil
  case cons w ws hi =>
    have hw : P [] w (behindCommas ws) := h [] w ws rfl
    cases ws
    case nil => exact .word hw .nil
    case cons v ws =>
      have hs : EachWord (fun before => P (.word w :: .comma :: before)) (separated (v :: ws)) :=
        hi fun us w' vs hs => h (w :: us) w' vs (congrArg _ hs)
      exact .word hw (.other nofun hs)

-- The place of a parameter of a designator for methods.
inductive AmongParams : List Token → List Token → Prop
  | intro (pre post : List Token) (r q : String) (us vs : List String) :
    AmongParams (pre ++ [.word "execution", .openParen, .word r, .word q, .openParen] ++
        us.flatMap fun u => [.word u, .comma])
      (behindCommas vs ++ [.closeParen, .closeParen] ++ post)

-- The place of the name in a designator for methods.
inductive NamesMethod : List Token → List Token → Prop
  | intro (pre post : List Token) (r : String) :
    NamesMethod (pre ++ [.word "execution", .openParen, .word r]) (.openParen :: post)

-- The last dot of the word, which cuts off the name of a method, has another dot before it.
inductive DotsAtName : String → Prop
  | intro {t n : String} : TypeWord true t → t.toList.getLast? = some '.' → '.' ∉ n.toList →
    NameWord n → DotsAtName (t ++ "." ++ n)

-- The word has no two dots, or they are where they may be.
def Fits (before : List Token) (w : String) (behind : List Token) : Prop :=
  HasDots w → w = ".." ∧ AmongParams before behind ∨ DotsAtName w ∧ NamesMethod before behind

section Places

variable {before behind : List Token} {w : String}

theorem AmongParams.widen (h : AmongParams before behind) (pre post : List Token) :
    AmongParams (pre ++ before) (behind ++ post) := by
  cases h
  case intro pre' post' r q us vs =>
    simpa using AmongParams.intro (pre ++ pre') (post' ++ post) r q us vs

theorem NamesMethod.widen (h : NamesMethod before behind) (pre post : List Token) :
    NamesMethod (pre ++ before) (behind ++ post) := by
  cases h
  case intro pre' post' r =>
    simpa using NamesMethod.intro (pre ++ pre') (post' ++ post) r

-- More tokens around it make no difference to a word.
theorem Fits.widen (h : Fits before w behind) (pre post : List Token) :
    Fits (pre ++ before) w (behind ++ post) := by
  intro hd
  cases h hd
  case inl h => exact .inl ⟨h.left, h.right.widen pre post⟩
  case inr h => exact .inr ⟨h.left, h.right.widen pre post⟩

theorem Fits.of_plain (h : ¬HasDots w) : Fits before w behind :=
  fun hd => absurd hd h

end Places

section Words

variable {w q t n : String}

theorem not_hasDots_of_not_mem (h : '.' ∉ w.toList) : ¬HasDots w :=
  fun hd => h (hd.subset List.mem_cons_self)

-- If two in a row are only made up by a last one that is put behind, the one before it is there.
theorem getLast?_of_infix {α : Type} {a : α} {as bs : List α} (h : [a, a] <:+: as ++ a :: bs)
    (has : ¬[a, a] <:+: as) (hbs : a ∉ bs) : as.getLast? = some a := by
  induction as
  case nil =>
    cases List.infix_cons_iff.mp h
    case inl hp => exact absurd ((List.cons_prefix_cons.mp hp).right.subset List.mem_cons_self) hbs
    case inr hi => exact absurd (hi.subset List.mem_cons_self) hbs
  case cons b as ih =>
    cases List.infix_cons_iff.mp h
    case inl hp =>
      have ⟨hb, ht⟩ := List.cons_prefix_cons.mp hp
      cases as
      case nil => simp [hb]
      case cons =>
        have ⟨hc, _⟩ := List.cons_prefix_cons.mp ht
        exact absurd ⟨[], _, by simp [← hb, ← hc]; rfl⟩ has
    case inr hi => simp [List.getLast?_cons, ih hi fun h => has (List.infix_cons h)]

-- Only one of two dots can be in the first part of a word that is cut at its last dot.
theorem getLast?_of_hasDots (h : HasDots (t ++ "." ++ n)) (ht : ¬HasDots t) (hn : '.' ∉ n.toList) :
    t.toList.getLast? = some '.' := by
  apply getLast?_of_infix _ ht hn
  simpa [HasDots] using h

theorem TypeWord.not_hasDots {covariance : Bool} (h : TypeWord covariance w) : ¬HasDots w :=
  h.dots

theorem MethodWord.dotsAtName {t? : Option TypePattern} {p : NamePattern} (h : MethodWord q t? p)
    (hd : HasDots q) : DotsAtName q := by
  cases h
  case bare hn _ => exact absurd hd (not_hasDots_of_not_mem hn)
  case declared ht hn hw => exact .intro ht (getLast?_of_hasDots hd ht.not_hasDots hn) hn hw

theorem ParamWord.eq_of_hasDots {p : ParamPattern} (h : ParamWord w p) (hd : HasDots w) :
    w = ".." := by
  cases h
  case rest   => rfl
  case one ht => exact absurd hd ht.not_hasDots

end Words

section Designators

variable {d : Designator} {ts : List Token} {name : String}

theorem eachWord_fits_of_plain (h : ∀ w, .word w ∈ ts → ¬HasDots w) : EachWord Fits ts := by
  constructor
  intro before w behind hs
  apply Fits.of_plain
  apply h
  simp [hs]

theorem MethodSpelling.eachWord_fits {p : MethodPattern} (h : MethodSpelling p ts) :
    EachWord Fits (.word "execution" :: .openParen :: (ts ++ [.closeParen])) := by
  cases h
  case intro r q t? n ws ps hr hq hp =>
    have hd : ¬HasDots "execution" := not_hasDots_of_not_mem (by decide)
    have hname : Fits [.word "execution", .openParen, .word r] q
        (.openParen :: (separated ws ++ [.closeParen, .closeParen])) :=
      fun hd => .inr ⟨hq.dotsAtName hd, .intro [] _ r⟩
    have hparams : EachWord (fun before w behind => Fits
        ([.word "execution", .openParen, .word r, .word q, .openParen] ++ before) w
          (behind ++ [.closeParen, .closeParen])) (separated ws) := by
      apply eachWord_separated
      intro us w vs hs hd
      have ⟨p, _, hw⟩ := Outcome.exists_of_mem hp w (by simp [hs])
      have ha := AmongParams.intro [] [] r q us vs
      exact .inl ⟨hw.eq_of_hasDots hd, by simpa using ha⟩
    have hclose : EachWord (fun before => Fits ([.word "execution", .openParen, .word r, .word q,
        .openParen] ++ (separated ws ++ before))) [.closeParen, .closeParen] :=
      .other nofun (.other nofun .nil)
    simp only [List.cons_append, List.append_assoc]
    apply EachWord.word (.of_plain hd)
    refine .other nofun ?_
    apply EachWord.word (.of_plain hr.not_hasDots)
    apply EachWord.word hname
    refine .other nofun ?_
    exact .append hparams hclose

theorem FieldSpelling.plain {p : FieldPattern} (h : FieldSpelling p ts) :
    ∀ w, .word w ∈ ts → ¬HasDots w := by
  cases h
  case anyName ht  => simpa using ht.not_hasDots
  case named ht hn => simpa using ⟨ht.not_hasDots, not_hasDots_of_not_mem hn.dots⟩

theorem Designator.Inside.eachWord_fits (h : d.Inside name ts) :
    EachWord Fits (.word name :: .openParen :: (ts ++ [.closeParen])) := by
  cases h
  case execution hs => exact hs.eachWord_fits
  case autowire hs =>
    apply eachWord_fits_of_plain
    have hd : ¬HasDots "autowire" := not_hasDots_of_not_mem (by decide)
    simpa using ⟨hd, hs.plain⟩
  case within hw =>
    apply eachWord_fits_of_plain
    have hd : ¬HasDots "within" := not_hasDots_of_not_mem (by decide)
    simpa using ⟨hd, hw.not_hasDots⟩
  case target hw =>
    apply eachWord_fits_of_plain
    have hd : ¬HasDots "target" := not_hasDots_of_not_mem (by decide)
    simpa using ⟨hd, hw.not_hasDots⟩

theorem Designator.Annotated.plain {p : TypePattern} (h : d.Annotated name p) : ¬HasDots name := by
  apply not_hasDots_of_not_mem
  cases h <;> decide

theorem Designator.Spelled.eachWord_fits (h : d.Spelled ts) : EachWord Fits ts := by
  cases h
  case plain hi => exact hi.eachWord_fits
  case annotated hw ha =>
    apply eachWord_fits_of_plain
    simpa using ⟨ha.plain, hw.not_hasDots⟩

end Designators

section Expressions

variable {level : Level} {room : Nat} {e : Expression} {ts : List Located}

-- Tokens that are no words can be put around and between.
theorem EachWord.fits_between {ts us : List Token} {t : Token} (ht : EachWord Fits ts)
    (hn : ∀ w, t ≠ .word w) (hu : EachWord Fits us) : EachWord Fits (ts ++ t :: us) := by
  apply EachWord.append
  · exact ht.imp fun before w behind hf => hf.widen [] (t :: us)
  · apply EachWord.other hn
    exact hu.imp fun before w behind hf => by simpa using hf.widen (ts ++ [t]) []

-- What is joined, negated or put in parentheses keeps its words.
theorem Derives.eachWord_fits (h : Derives level room e ts) :
    EachWord Fits (ts.map (·.token)) := by
  induction h
  case leaf hs => exact hs.eachWord_fits
  case not hi => exact .fits_between .nil nofun hi
  case group hi =>
    have hc := hi.fits_between (t := .closeParen) nofun .nil
    simpa using EachWord.fits_between (t := .openParen) .nil nofun hc
  case operand hi => exact hi
  case conjunction hi => exact hi
  case and hl hr => simpa using hl.fits_between (t := .and) nofun hr
  case or hl hr => simpa using hl.fits_between (t := .or) nofun hr

end Expressions

-- A pattern that ends in a dot is not for any type that has a name.
theorem simplePart_of_accepts {t name : String} {types : Hierarchy}
    (h : t.toList.getLast? = some '.') (ha : (TypePattern.parse t).accepts types name = true) :
    simplePart name = "" := by
  have hp : t.toList.getLast? ≠ some '+' := by simp [h]
  have hn : t ≠ "*" := by
    intro he
    simp [he] at h
  have ⟨cs, hs⟩ := List.getLast?_eq_some_iff.mp h
  have hq : splitQualified t = some (String.ofList cs, "") :=
    splitQualified_eq_some.mpr ⟨by simp [← String.toList_inj, hs], by simp⟩
  have hparts : (TypePattern.parse t).name = .exact "" := by
    simp [TypePattern.parse, TypePattern.stripPlus_eq_none.mpr hp, TypePattern.nameParts, hn, hq,
      NamePattern.parse]
  rw [TypePattern.accepts_eq_of_not_covariant (TypePattern.not_covariant hp)] at ha
  simp [TypePattern.acceptsName, hparts, NamePattern.accepts] at ha
  exact ha.right

theorem DotsAtName.simplePart_of_accepts {w name : String} {t : TypePattern} {n : NamePattern}
    {types : Hierarchy} (hd : DotsAtName w) (h : MethodWord w (some t) n)
    (ha : t.accepts types name = true) : simplePart name = "" := by
  cases hd
  case intro t' n' _ hl hn _ =>
    have hs : splitQualified (t' ++ "." ++ n') = some (t', n') :=
      splitQualified_eq_some.mpr ⟨rfl, hn⟩
    have ⟨_, _, ht, _⟩ := (methodWord_declared hs).mp h
    cases ht
    exact Pointcut.simplePart_of_accepts hl ha

theorem parse_of_syntactic {text : String} {e : SyntaxError}
    (h : Expression.parse text = .error e) : parse text = .error (.syntactic e) := by
  simp [parse, h, bind, Except.bind, Except.mapError]

-- A text is refused with a syntax error, or each of its words with two dots side by side stands for
-- the parameters that are left and is nothing but these dots. The one exception is a method behind
-- a declaring type that ends in a dot itself, and then no type is meant that has a name.
theorem dots_stand_for_params {text : String} {ts : List Located} (h : tokensOf text = .ok ts) :
    (∃ e, Expression.parse text = .error e ∧ parse text = .error (.syntactic e)) ∨
    ∀ before w i behind, ts = before ++ ⟨.word w, i⟩ :: behind → HasDots w →
      w = ".." ∧ AmongParams (before.map (·.token)) (behind.map (·.token)) ∨
      (DotsAtName w ∧ NamesMethod (before.map (·.token)) (behind.map (·.token))) ∧
        ∀ t n, MethodWord w (some t) n →
          ∀ types name, t.accepts types name = true → simplePart name = "" := by
  cases he : Expression.parse text
  case error e => exact .inl ⟨e, rfl, parse_of_syntactic he⟩
  case ok e =>
    have ⟨ts', ht, hd⟩ := expression_parse_eq_ok.mp he
    cases h.symm.trans ht
    refine .inr fun before w i behind hs hw => ?_
    have hf : Fits (before.map (·.token)) w (behind.map (·.token)) := by
      apply hd.eachWord_fits.holds
      simp [hs]
    cases hf hw
    case inl hp => exact .inl hp
    case inr hn => exact .inr ⟨hn, fun _ _ ht _ _ ha => hn.left.simplePart_of_accepts ht ha⟩

theorem dots_stand_for_params_mixed :
    ∃ ts, tokensOf "execution(* a.B+.save(.., String, ..)) && !within(a.C)" = .ok ts ∧
      ((∃ e, Expression.parse "execution(* a.B+.save(.., String, ..)) && !within(a.C)" = .error e ∧
        parse "execution(* a.B+.save(.., String, ..)) && !within(a.C)" = .error (.syntactic e)) ∨
      ∀ before w i behind, ts = before ++ ⟨.word w, i⟩ :: behind → HasDots w →
        w = ".." ∧ AmongParams (before.map (·.token)) (behind.map (·.token)) ∨
        (DotsAtName w ∧ NamesMethod (before.map (·.token)) (behind.map (·.token))) ∧
          ∀ t n, MethodWord w (some t) n →
            ∀ types name, t.accepts types name = true → simplePart name = "") := by
  have ho : (tokensOf "execution(* a.B+.save(.., String, ..)) && !within(a.C)").isOk := by
    decide +kernel
  have ⟨ts, h⟩ := Outcome.isOk_iff.mp ho
  exact ⟨ts, h, dots_stand_for_params h⟩

-- The dot before the name of a method is not seen next to the dot at the end of the type.
theorem dots_before_name :
    ¬∀ text p ts, parse text = .ok p → tokensOf text = .ok ts →
      ∀ before w i behind, ts = before ++ ⟨.word w, i⟩ :: behind → HasDots w →
        w = ".." ∧ AmongParams (before.map (·.token)) (behind.map (·.token)) := by
  intro h
  have ho : (parse "execution(* a..save(..))").isOk := by decide +kernel
  have ⟨p, hp⟩ := Outcome.isOk_iff.mp ho
  have ht : tokensOf "execution(* a..save(..))" = .ok
      ([⟨.word "execution", 0⟩, ⟨.openParen, 9⟩, ⟨.word "*", 10⟩] ++ ⟨.word "a..save", 12⟩ ::
        [⟨.openParen, 19⟩, ⟨.word "..", 20⟩, ⟨.closeParen, 22⟩, ⟨.closeParen, 23⟩]) := by
    decide +kernel
  have ⟨hw, _⟩ := h _ p _ hp ht _ "a..save" 12 _ rfl (by decide +kernel)
  exact absurd hw (by decide)

end Interpose.Pointcut
