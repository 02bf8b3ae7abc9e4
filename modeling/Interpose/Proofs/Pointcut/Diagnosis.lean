import Interpose.Pointcut.Meaning
import Interpose.Proofs.Pointcut.Cutting
import Interpose.Proofs.Pointcut.Relocation

namespace Interpose.Pointcut

open Outcome

-- The token that starts at a position.
def tokenAt (ts : List Located) (i : Nat) : Option Token :=
  (ts.find? (·.position == i)).map (·.token)

-- All of the tokens are taken before something is missed: whatever is put behind them, it is the
-- token there that is found in its place.
def Consumes (ts : List Located) (wanted : Wanted) : Prop :=
  ∃ t, ∀ i us, Expression.ofTokens (ts ++ ⟨t, i⟩ :: us) =
    .error ⟨.expected wanted (some t), some i⟩

-- The fault is about a type, a name, a covariance marker or a designator.
inductive SyntaxFault.AboutWord : SyntaxFault → Prop
  | designator (w : String) : AboutWord (.unknownDesignator w)
  | annotated (w : String)  : AboutWord (.unknownAnnotationDesignator w)
  | dots (w : String)       : AboutWord (.dotsInType w)
  | plus                    : AboutWord .covariance
  | method (w : String)     : AboutWord (.methodName w)
  | field (w : String)      : AboutWord (.fieldName w)

-- The error points into the text, in a way that goes with what it says.
structure Pointed (text : String) (e : SyntaxError) : Prop where
  expression : e.expression = text
  position   : e.position ≤ text.length
  found      : ∀ wanted t, e.fault = .expected wanted (some t) →
    ∃ ts, tokensOf text = .ok ts ∧ tokenAt ts e.position = some t
  ended      : ∀ wanted, e.fault = .expected wanted none →
    e.position = text.length ∧ ∃ ts, tokensOf text = .ok ts ∧ Consumes ts wanted
  nesting    : e.fault = .nesting → ∃ ts, tokensOf text = .ok ts ∧
    (tokenAt ts e.position = some .not ∨ tokenAt ts e.position = some .openParen)
  words      : e.fault.AboutWord → ∃ ts w i n, tokensOf text = .ok ts ∧ ⟨.word w, i⟩ ∈ ts ∧
    e.fault.Concerns (.word w) n ∧ e.position = i + n ∧ n ≤ w.length

section Positions

variable {text : String} {s : List Char} {ts : List Located} {t : Token} {i n : Nat}

theorem tokenAt_eq_some (h : ts.Pairwise (·.position < ·.position)) (ht : ⟨t, i⟩ ∈ ts) :
    tokenAt ts i = some t := by
  induction h
  case nil => cases ht
  case cons u us hu _ hi =>
    rw [tokenAt, List.find?_cons]
    cases List.mem_cons.mp ht
    case inl he =>
      subst he
      simp
    case inr hm =>
      have hn : (u.position == i) = false := by
        simpa using Nat.ne_of_lt (hu _ hm)
      rw [hn]
      exact hi hm

-- Tokens end within the text.
theorem stop_le (h : tokensOf text = .ok ts) (ht : ⟨t, i⟩ ∈ ts) :
    i + t.lexeme.length ≤ text.length := by
  have hp : t.lexeme ≠ "" := Token.Proper.lexeme_ne_empty (proper_of_tokensFrom h _ ht)
  have hl := ((cut_of_tokensOf h).texts _ ht).length_le
  have hpos : t.lexeme.length ≠ 0 := mt String.length_eq_zero_iff.mp hp
  simp only [List.length_drop, String.length_toList] at hl
  omega

theorem SyntaxFault.Concerns.le {fault : SyntaxFault} (h : fault.Concerns t n) :
    n ≤ t.lexeme.length := by
  cases h
  case plus w before after hw =>
    have hl : w.length = before.length + (after.length + 1) := by
      rw [← String.length_toList, hw, List.length_append, List.length_cons]
    exact hl ▸ Nat.le_add_right ..
  case method before w =>
    exact (String.length_append ..).symm ▸ Nat.le_add_right ..
  all_goals exact Nat.zero_le _

end Positions

section Faults

variable {text : String} {ts : List Located} {f : ParseFault} {wanted : Wanted}

-- Wherever something can be missed there is a token that is refused.
theorem Wanted.exists_unwelcome (wanted : Wanted) :
    ∃ t, ∀ i us, Quiet (⟨t, i⟩ :: us) ∧ ¬wanted.Welcomes (⟨t, i⟩ :: us) := by
  cases wanted
  case designator => exact ⟨.closeParen, fun _ _ => ⟨.close, nofun⟩⟩
  all_goals exact ⟨.atSign, fun _ _ => ⟨.atSign, nofun⟩⟩

theorem consumes_of_refused (h : Expression.ofTokens ts = .error (refusal wanted [])) :
    Consumes ts wanted := by
  have ⟨t, ht⟩ := wanted.exists_unwelcome
  refine ⟨t, fun i us => ?_⟩
  have ⟨hq, hw⟩ := ht i us
  exact Expression.ofTokens_behind hq hw (along_of_map_eq rfl) h

-- A fault in tokens is about one of them, or it is at the end or about the whole.
inductive Points (ts : List Located) : ParseFault → Prop
  | empty : Points ts ⟨.empty, some 0⟩
  | within {fault : SyntaxFault} {t : Token} {i n : Nat} : ⟨t, i⟩ ∈ ts → fault.Concerns t n →
    Points ts ⟨fault, some (i + n)⟩
  | ended {wanted : Wanted} : Consumes ts wanted → Points ts ⟨.expected wanted none, none⟩

theorem points_of_ofTokens (h : Expression.ofTokens ts = .error f) : Points ts f := by
  have ha : Along (Corresponds ts ts) [] ts (ts ++ []) := along_of_map_eq rfl
  rw [List.append_nil] at ha
  rcases rel_iff.mp (Expression.ofTokens_along ha) with
    ⟨_, _, he, _, _⟩ | ⟨_, _, hf, _, hs⟩
  case inl => cases he.symm.trans h
  case inr =>
    cases hf.symm.trans h
    clear hf
    cases hs
    case empty => exact .empty
    case within hk hc _ =>
      have ⟨k, hk, _⟩ := hk
      exact .within (List.mem_of_getElem? hk) hc
    case ended => exact .ended (consumes_of_refused h)

theorem Points.pointed (h : Points ts f) (ht : tokensOf text = .ok ts) :
    Pointed text (f.locate text) := by
  have hp := (cut_of_tokensOf ht).increasing
  cases h
  case empty =>
    exact ⟨rfl, Nat.zero_le _, nofun, nofun, nofun, nofun⟩
  case ended wanted hc =>
    refine ⟨rfl, Nat.le_refl _, nofun, ?_, nofun, nofun⟩
    rintro _ ⟨⟩
    exact ⟨rfl, ts, ht, hc⟩
  case within fault t i n hm hc =>
    refine ⟨rfl, ?position, ?found, ?ended, ?nesting, ?words⟩
    case position => exact Nat.le_trans (Nat.add_le_add_left hc.le i) (stop_le ht hm)
    case found =>
      rintro wanted t rfl
      cases hc
      exact ⟨ts, ht, tokenAt_eq_some hp hm⟩
    case ended =>
      rintro wanted rfl
      cases hc
    case nesting =>
      rintro rfl
      cases hc
      case negation => exact ⟨ts, ht, .inl (tokenAt_eq_some hp hm)⟩
      case group    => exact ⟨ts, ht, .inr (tokenAt_eq_some hp hm)⟩
    case words =>
      intro hw
      have ⟨w, hw⟩ : ∃ w, t = .word w := by cases hw <;> cases hc <;> exact ⟨_, rfl⟩
      subst hw
      exact ⟨ts, w, i, n, ht, hm, hc, rfl, hc.le⟩

theorem pointed_of_blames {f : TokenFault} (h : Blames text.toList f) :
    Pointed text (f.toSyntax.locate text) := by
  cases h
  case intro i c hc _ _ =>
    have ⟨hlt, _⟩ := List.getElem?_eq_some_iff.mp hc
    have hi : i ≤ text.length := String.length_toList ▸ Nat.le_of_lt hlt
    unfold faultAt
    split
    all_goals exact ⟨rfl, hi, nofun, nofun, nofun, nofun⟩

theorem pointed_of_expression_parse {e : SyntaxError} (h : Expression.parse text = .error e) :
    Pointed text e := by
  rw [Expression.parse] at h
  cases ht : tokensOf text <;> rw [ht] at h
  case error f =>
    cases h
    exact pointed_of_blames (blames_of_tokensOf ht)
  case ok ts =>
    change (Expression.ofTokens ts).mapError _ = _ at h
    cases ho : Expression.ofTokens ts <;> rw [ho] at h <;> cases h
    exact (points_of_ofTokens ho).pointed ht

-- A syntax error comes from reading the expression, or there is no domain.
theorem of_parse_eq_syntactic {e : SyntaxError} (h : parse text = .error (.syntactic e)) :
    Expression.parse text = .error e ∨ e = ⟨text, .noDomain, 0⟩ := by
  cases he : Expression.parse text
  case error e' =>
    simp only [parse, he, bind, Except.bind, Except.mapError] at h
    cases h
    exact .inl rfl
  case ok x =>
    cases ho : ofAlternatives text x <;>
      simp only [parse, he, ho, bind, Except.bind, Except.mapError] at h
    case error => cases h
    case ok p? =>
      cases p? <;> cases h
      exact .inr rfl

end Faults

-- A syntax error has the text it is about and points into it, at the token that it names, into the
-- word that it is about, or behind all of the tokens.
theorem syntax_error_pointed {text : String} {e : SyntaxError}
    (h : parse text = .error (.syntactic e)) : Pointed text e := by
  cases of_parse_eq_syntactic h
  case inl he => exact pointed_of_expression_parse he
  case inr he =>
    subst he
    exact ⟨rfl, Nat.zero_le _, nofun, nofun, nofun, nofun⟩

theorem syntax_error_pointed_name :
    parse "execution(* a.B.save+(..))" =
        .error (.syntactic ⟨"execution(* a.B.save+(..))", .methodName "save+", 16⟩) ∧
      Pointed "execution(* a.B.save+(..))"
        ⟨"execution(* a.B.save+(..))", .methodName "save+", 16⟩ := by
  have h : parse "execution(* a.B.save+(..))" =
      .error (.syntactic ⟨"execution(* a.B.save+(..))", .methodName "save+", 16⟩) := by
    decide +kernel
  exact ⟨h, syntax_error_pointed h⟩

-- The name may be empty, and then the error is right behind its word.
example : parse "execution(* save.(..))" =
    .error (.syntactic ⟨"execution(* save.(..))", .methodName "", 17⟩) := by
  decide +kernel

end Interpose.Pointcut
