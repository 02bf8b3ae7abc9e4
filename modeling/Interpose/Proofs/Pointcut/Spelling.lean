import Mathlib.Data.List.Forall2
import Interpose.Pointcut.Token
import Interpose.Pointcut.Expression

namespace Interpose

theorem splitAtLast_eq_none {sep : Char} {s : List Char} : splitAtLast sep s = none ↔ sep ∉ s := by
  induction s
  case nil => simp [splitAtLast]
  case cons c s hi =>
    rw [splitAtLast, List.mem_cons, not_or, ← hi]
    cases splitAtLast sep s
    case none   => simp [eq_comm]
    case some _ => simp

theorem splitAtLast_eq_some {sep : Char} {s p n : List Char} :
    splitAtLast sep s = some (p, n) ↔ s = p ++ sep :: n ∧ sep ∉ n := by
  constructor
  case mp =>
    intro h
    refine ⟨eq_append_of_splitAtLast h, ?_⟩
    induction s generalizing p
    case nil => cases h
    case cons c s hi =>
      rw [splitAtLast] at h
      cases hs : splitAtLast sep s <;> simp only [hs] at h
      case none =>
        split at h
        · cases h
          exact splitAtLast_eq_none.mp hs
        · cases h
      case some q =>
        cases h
        exact hi hs
  case mpr =>
    rintro ⟨rfl, hn⟩
    induction p
    case nil => simp [splitAtLast, splitAtLast_eq_none.mpr hn]
    case cons c p hi => simp [splitAtLast, hi]

theorem splitQualified_eq_none {name : String} :
    splitQualified name = none ↔ '.' ∉ name.toList := by
  simp [splitQualified, splitAtLast_eq_none]

theorem splitQualified_eq_some {name p n : String} :
    splitQualified name = some (p, n) ↔ name = p ++ "." ++ n ∧ '.' ∉ n.toList := by
  simp only [splitQualified, Option.map_eq_some_iff, Prod.exists, splitAtLast_eq_some,
    Prod.mk.injEq]
  constructor
  case mp =>
    rintro ⟨p, n, ⟨hs, hn⟩, rfl, rfl⟩
    refine ⟨String.toList_inj.mp ?_, by simpa using hn⟩
    simpa using hs
  case mpr =>
    rintro ⟨rfl, hn⟩
    exact ⟨p.toList, n.toList, ⟨by simp, hn⟩, by simp, by simp⟩

theorem NamePattern.cut_ne_nil {sep : Char} {s : List Char} : cut sep s ≠ [] := by
  cases s
  case nil => simp [cut]
  case cons =>
    rw [cut]
    split
    · simp
    · split <;> simp

theorem NamePattern.intercalate_cut {sep : Char} {s : List Char} :
    [sep].intercalate (cut sep s) = s := by
  induction s
  case nil => simp [cut]
  case cons c s hi =>
    rw [cut]
    cases h : cut sep s
    case nil => exact (cut_ne_nil h).elim
    case cons piece pieces =>
      rw [h] at hi
      by_cases hc : c = sep
      case pos => simp [List.intercalate_cons_cons, hi, hc]
      case neg => simp [List.intercalate_cons_cons_left, hi, hc]

theorem NamePattern.text_parse (w : String) : (parse w).text = w := by
  rw [parse]
  by_cases h : w = "*"
  case pos => simp [h, text]
  case neg =>
    rw [if_neg h]
    by_cases hs : w.toList.contains '*' = true
    case pos =>
      rw [if_pos hs]
      apply String.toList_inj.mp
      simp [text, String.toList_intercalate, Function.comp_def, intercalate_cut]
    case neg =>
      rw [if_neg hs]
      rfl

namespace Pointcut

-- A word that may stand for a type: a plus is at its end, and only where subtypes make sense.
structure TypeWord (covariance : Bool) (w : String) : Prop where
  dots : ¬['.', '.'] <:+: w.toList
  plus : '+' ∉ w.toList.dropLast
  last : '+' ∈ w.toList → covariance = true

-- A word that may name a method.
structure NameWord (w : String) : Prop where
  nonempty : w ≠ ""
  plain    : '+' ∉ w.toList

-- The word for a method, perhaps with the declaring type before its last dot.
inductive MethodWord : String → Option TypePattern → NamePattern → Prop
  | bare {n : String} : '.' ∉ n.toList → NameWord n → MethodWord n none (.parse n)
  | declared {t n : String} : TypeWord true t → '.' ∉ n.toList → NameWord n →
    MethodWord (t ++ "." ++ n) (some (.parse t)) (.parse n)

inductive ParamWord : String → ParamPattern → Prop
  | rest : ParamWord ".." .rest
  | one {w : String} : TypeWord true w → ParamWord w (.one (.parse w))

-- The words behind the first one in a list.
def behindCommas (ws : List String) : List Token :=
  ws.flatMap fun w => [.comma, .word w]

-- Words with commas between them.
def separated : List String → List Token
  | [] => []
  | w :: ws => .word w :: behindCommas ws

-- A word that may name a field.
structure FieldWord (w : String) : Prop where
  dots  : '.' ∉ w.toList
  plain : '+' ∉ w.toList

-- The words for the shape of a method.
inductive MethodSpelling : MethodPattern → List Token → Prop
  | intro {r q : String} {t? : Option TypePattern} {n : NamePattern} {ws : List String}
    {ps : List ParamPattern} : TypeWord true r → MethodWord q t? n → List.Forall₂ ParamWord ws ps →
    MethodSpelling ⟨.parse r, t?, n, ps⟩
      (.word r :: .word q :: .openParen :: (separated ws ++ [.closeParen]))

inductive FieldSpelling : FieldPattern → List Token → Prop
  | anyName {t : String} : TypeWord true t → FieldSpelling ⟨.parse t, none⟩ [.word t]
  | named {t n : String} : TypeWord true t → FieldWord n →
    FieldSpelling ⟨.parse t, some (.parse n)⟩ [.word t, .word n]

-- What stands between the parentheses behind the name of a designator.
inductive Designator.Inside : Designator → String → List Token → Prop
  | execution {p : MethodPattern} {ts : List Token} : MethodSpelling p ts →
    Inside (execution p) "execution" ts
  | autowire {p : FieldPattern} {ts : List Token} : FieldSpelling p ts →
    Inside (autowire p) "autowire" ts
  | within {w : String} : TypeWord true w → Inside (within (.parse w)) "within" [.word w]
  | target {w : String} : TypeWord true w → Inside (target (.parse w)) "target" [.word w]

-- The designators behind an at sign, by their names.
inductive Designator.Annotated : Designator → String → TypePattern → Prop
  | within (p : TypePattern) : Annotated (annotatedWithin p) "within" p
  | target (p : TypePattern) : Annotated (annotatedTarget p) "target" p
  | execution (p : TypePattern) : Annotated (annotatedExecution p) "execution" p
  | autowire (p : TypePattern) : Annotated (annotatedAutowire p) "autowire" p

inductive Designator.Spelled : Designator → List Token → Prop
  | plain {d : Designator} {name : String} {ts : List Token} : d.Inside name ts →
    Spelled d (.word name :: .openParen :: (ts ++ [.closeParen]))
  | annotated {d : Designator} {name w : String} : TypeWord false w →
    d.Annotated name (.parse w) →
    Spelled d [.atSign, .word name, .openParen, .word w, .closeParen]

section MethodWord

variable {w t n : String} {t? : Option TypePattern} {p : NamePattern}

theorem methodWord_bare (h : splitQualified w = none) :
    MethodWord w t? p ↔ NameWord w ∧ t? = none ∧ p = .parse w := by
  have hd := splitQualified_eq_none.mp h
  constructor
  case mp =>
    rintro (⟨_, hw⟩ | _)
    case bare     => exact ⟨hw, rfl, rfl⟩
    case declared => simp at hd
  case mpr =>
    rintro ⟨hw, rfl, rfl⟩
    exact .bare hd hw

theorem methodWord_declared (h : splitQualified w = some (t, n)) :
    MethodWord w t? p ↔ TypeWord true t ∧ NameWord n ∧ t? = some (.parse t) ∧ p = .parse n := by
  constructor
  case mp =>
    rintro (⟨hd, _⟩ | ⟨ht, hn, hw⟩)
    case bare     => cases h.symm.trans (splitQualified_eq_none.mpr hd)
    case declared =>
      cases h.symm.trans (splitQualified_eq_some.mpr ⟨rfl, hn⟩)
      exact ⟨ht, hw, rfl, rfl⟩
  case mpr =>
    rintro ⟨ht, hw, rfl, rfl⟩
    obtain ⟨rfl, hn⟩ := splitQualified_eq_some.mp h
    exact .declared ht hn hw

end MethodWord

-- The tokens of a name with something in parentheses behind it.
def called (name : String) (inside : List Token) : List Token :=
  .word name :: .openParen :: (inside ++ [.closeParen])

def methodWord (p : MethodPattern) : String :=
  (p.declaringType.map (·.text ++ ".")).getD "" ++ p.name.text

def methodTokens (p : MethodPattern) : List Token :=
  .word p.returnType.text :: called (methodWord p) (separated (p.params.map (·.text)))

def fieldTokens (p : FieldPattern) : List Token :=
  .word p.fieldType.text :: (p.name.map (Token.word ·.text)).toList

def Designator.tokens : Designator → List Token
  | execution p           => called "execution" (methodTokens p)
  | autowire p            => called "autowire" (fieldTokens p)
  | within p              => called "within" [.word p.text]
  | target p              => called "target" [.word p.text]
  | annotatedWithin p     => .atSign :: called "within" [.word p.text]
  | annotatedTarget p     => .atSign :: called "target" [.word p.text]
  | annotatedExecution p  => .atSign :: called "execution" [.word p.text]
  | annotatedAutowire p   => .atSign :: called "autowire" [.word p.text]

theorem MethodWord.eq_text {w : String} {t? : Option TypePattern} {n : NamePattern}
    (h : MethodWord w t? n) : w = (t?.map (·.text ++ ".")).getD "" ++ n.text := by
  cases h
  case bare     => simp [NamePattern.text_parse]
  case declared => simp [NamePattern.text_parse, TypePattern.parse, String.append_assoc]

theorem ParamWord.eq_text {w : String} {p : ParamPattern} (h : ParamWord w p) : p.text = w := by
  cases h <;> rfl

theorem ParamWord.map_eq_text {ws : List String} {ps : List ParamPattern}
    (h : List.Forall₂ ParamWord ws ps) : ps.map (·.text) = ws := by
  induction h
  case nil          => rfl
  case cons hw _ hi => rw [List.map_cons, hw.eq_text, hi]

theorem MethodSpelling.eq_tokens {p : MethodPattern} {ts : List Token} (h : MethodSpelling p ts) :
    ts = methodTokens p := by
  cases h
  case intro hq hp =>
    rw [methodTokens, ParamWord.map_eq_text hp, methodWord, ← hq.eq_text]
    rfl

theorem FieldSpelling.eq_tokens {p : FieldPattern} {ts : List Token} (h : FieldSpelling p ts) :
    ts = fieldTokens p := by
  cases h
  case anyName => rfl
  case named   => simp [fieldTokens, NamePattern.text_parse, TypePattern.parse]

-- The spelling of a designator is settled.
theorem Designator.Spelled.eq_tokens {d : Designator} {ts : List Token} (h : d.Spelled ts) :
    ts = d.tokens := by
  cases h
  case plain hi =>
    cases hi
    case execution hs => rw [hs.eq_tokens]; rfl
    case autowire hs  => rw [hs.eq_tokens]; rfl
    all_goals rfl
  case annotated ha => cases ha <;> rfl

end Pointcut
end Interpose
