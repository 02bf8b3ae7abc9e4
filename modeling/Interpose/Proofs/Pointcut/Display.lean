import Interpose.Proofs.Pointcut.Compiling
import Interpose.Proofs.Pointcut.Lexing
import Interpose.Proofs.Pointcut.Printing

namespace Interpose.Pointcut

-- The expression that a pointcut is written as.
def expression : Pointcut → Expression
  | leaf _ d => .leaf d
  | and _ l r => .and l.expression r.expression 0
  | or _ l r | divergent l r => .or l.expression r.expression 0
  | not _ p => .not p.expression

-- The tokens of the text of a pointcut.
def tokens : Pointcut → List Token
  | leaf _ d => d.tokens
  | and _ l r => .openParen :: (l.tokens ++ .and :: (r.tokens ++ [.closeParen]))
  | or _ l r => .openParen :: (l.tokens ++ .or :: (r.tokens ++ [.closeParen]))
  | not _ p => .not :: p.tokens
  | divergent e w => e.tokens ++ .or :: w.tokens

-- How many negations and grouping parentheses are around one another in the text of a pointcut.
def nesting : Pointcut → Nat
  | leaf _ _ => 0
  | and _ l r | or _ l r => max l.nesting r.nesting + 1
  | not _ p => p.nesting + 1
  | divergent e w => max e.nesting w.nesting

-- The words of a designator are such that its text is read as the designator.
structure Designator.Readable (d : Designator) : Prop where
  spelled : d.Spelled d.tokens
  proper  : ∀ t ∈ d.tokens, t.Proper

section Texts

variable {name : String} {inside : List Char} {its : List Token} {ws : List String}

theorem Lexes.called (hn : Word name) (h : Lexes inside its) :
    Lexes (name.toList ++ '(' :: (inside ++ [')'])) (called name its) :=
  (Lexes.word hn).append (.single rfl (h.append (.single rfl .nil) rfl)) rfl

theorem lexes_separated (h : ∀ w ∈ ws, Word w) :
    Lexes (", ".intercalate ws).toList (separated ws) := by
  rw [String.toList_intercalate]
  induction ws
  case nil => exact .nil
  case cons w ws hi =>
    obtain ⟨hw, hws⟩ := List.forall_mem_cons.mp h
    cases ws
    case nil => simpa [List.intercalate, separated, behindCommas] using Lexes.word hw
    case cons w' ws =>
      have := (Lexes.word hw).append (.single (c := ',') rfl (.blank (hi hws))) rfl
      simpa [List.intercalate_cons_cons, separated, behindCommas] using this

theorem mem_separated {w : String} (h : w ∈ ws) : Token.word w ∈ separated ws := by
  cases ws
  case nil => cases h
  case cons w' ws =>
    rcases List.mem_cons.mp h with rfl | h
    case inl => exact List.mem_cons_self
    case inr => exact List.mem_cons_of_mem _ (List.mem_flatMap.mpr ⟨w, h, by simp⟩)

theorem lexes_method {p : MethodPattern} (h : ∀ t ∈ methodTokens p, t.Proper) :
    Lexes p.text.toList (methodTokens p) := by
  have hr : Word p.returnType.text := h _ List.mem_cons_self
  have hm : Word (methodWord p) := h (.word _) (by simp [methodTokens, called])
  have hp : ∀ w ∈ p.params.map (·.text), Word w := fun w hw =>
    h (.word w) (by simp [methodTokens, called, mem_separated hw])
  have := (Lexes.word hr).append (.blank (.called hm (lexes_separated hp))) rfl
  simpa [MethodPattern.text, methodTokens, methodWord] using this

theorem lexes_field {p : FieldPattern} (h : ∀ t ∈ fieldTokens p, t.Proper) :
    Lexes p.text.toList (fieldTokens p) := by
  have ht : Word p.fieldType.text := h _ List.mem_cons_self
  cases hn : p.name
  case none => simpa [FieldPattern.text, fieldTokens, hn] using Lexes.word ht
  case some n =>
    have hw : Word n.text := h (.word n.text) (by simp [fieldTokens, hn])
    have := (Lexes.word ht).append (.blank (.word hw)) rfl
    simpa [FieldPattern.text, fieldTokens, hn] using this

theorem lexes_annotated {w : String} (hn : Word name) (hw : Word w) :
    Lexes ('@' :: (name.toList ++ '(' :: (w.toList ++ [')'])))
      (.atSign :: called name [.word w]) :=
  .single rfl (.called hn (.word hw))

theorem word_designators :
    Word "execution" ∧ Word "autowire" ∧ Word "within" ∧ Word "target" :=
  ⟨.of_all (by decide) rfl, .of_all (by decide) rfl, .of_all (by decide) rfl,
    .of_all (by decide) rfl⟩

theorem lexes_designator {d : Designator} (h : ∀ t ∈ d.tokens, t.Proper) :
    Lexes d.text.toList d.tokens := by
  have hi : ∀ {name its}, d.tokens = called name its → ∀ t ∈ its, t.Proper := fun he t ht =>
    h t (by simp [he, called, ht])
  have hw : ∀ {name w}, d.tokens = called name [.word w] → Word w := fun he =>
    hi he (.word _) List.mem_cons_self
  have ha : ∀ {name w}, d.tokens = .atSign :: called name [.word w] → Word w := fun he =>
    h (.word _) (by simp [he, called])
  obtain ⟨hm, hf, hc, ht⟩ := word_designators
  cases d
  case execution p =>
    have := Lexes.called hm (lexes_method (hi rfl))
    simpa [Designator.text, Designator.tokens] using this
  case autowire p =>
    have := Lexes.called hf (lexes_field (hi rfl))
    simpa [Designator.text, Designator.tokens] using this
  case within p =>
    have := Lexes.called hc (.word (hw rfl))
    simpa [Designator.text, Designator.tokens] using this
  case target p =>
    have := Lexes.called ht (.word (hw rfl))
    simpa [Designator.text, Designator.tokens] using this
  case annotatedWithin p =>
    have := lexes_annotated hc (ha rfl)
    simpa [Designator.text, Designator.tokens] using this
  case annotatedTarget p =>
    have := lexes_annotated ht (ha rfl)
    simpa [Designator.text, Designator.tokens] using this
  case annotatedExecution p =>
    have := lexes_annotated hm (ha rfl)
    simpa [Designator.text, Designator.tokens] using this
  case annotatedAutowire p =>
    have := lexes_annotated hf (ha rfl)
    simpa [Designator.text, Designator.tokens] using this

-- An operator between two texts, with a space on both sides of it.
theorem Lexes.joined {s s' : List Char} {us vs : List Token} {c : Char} {t : Token}
    (h : Lexes s us) (hc : Token.ofDoubled? c = some t) (h' : Lexes s' vs) :
    Lexes (s ++ ' ' :: c :: c :: ' ' :: s') (us ++ t :: vs) :=
  h.append (.blank (.doubled hc (.blank h'))) rfl

theorem lexes_text {p : Pointcut} (h : ∀ d ∈ p.leaves, d.Readable) :
    Lexes p.text.toList p.tokens := by
  induction p
  case leaf d => exact lexes_designator (h d (List.mem_singleton_self d)).proper
  case and l r hl hr =>
    obtain ⟨hsl, hsr⟩ := List.forall_mem_append.mp h
    have := Lexes.single (c := '(') rfl <|
      (hl hsl).joined (c := '&') rfl ((hr hsr).append (.single (c := ')') rfl .nil) rfl)
    simpa [text, tokens] using this
  case or l r hl hr =>
    obtain ⟨hsl, hsr⟩ := List.forall_mem_append.mp h
    have := Lexes.single (c := '(') rfl <|
      (hl hsl).joined (c := '|') rfl ((hr hsr).append (.single (c := ')') rfl .nil) rfl)
    simpa [text, tokens] using this
  case not p hi =>
    have := Lexes.single (c := '!') rfl (hi h)
    simpa [text, tokens] using this
  case divergent e w he hw =>
    obtain ⟨hse, hsw⟩ := List.forall_mem_append.mp h
    have := (he hse).joined (c := '|') rfl (hw hsw)
    simpa [text, tokens] using this

end Texts

section Derivations

variable {domain : Domain} {p e w : Pointcut} {room : Nat} {ts : List Located}

theorem map_token_eq_group {t : Token} {us vs : List Token}
    (h : ts.map (·.token) = .openParen :: (us ++ t :: (vs ++ [.closeParen]))) :
    ∃ i ls j rs k, ts = ⟨.openParen, i⟩ :: (ls ++ ⟨t, j⟩ :: (rs ++ [⟨.closeParen, k⟩])) ∧
      ls.map (·.token) = us ∧ rs.map (·.token) = vs := by
  obtain ⟨i, _, rfl, h'⟩ := map_token_eq_cons.mp h
  obtain ⟨ls, j, _, rfl, hl, h'⟩ := map_token_eq_append.mp h'
  obtain ⟨rs, k, _, rfl, hr, hc⟩ := map_token_eq_append.mp h'
  cases List.map_eq_nil_iff.mp hc
  exact ⟨i, ls, j, rs, k, rfl, hl, hr⟩

-- Each connective is in parentheses of its own, so that the text of a pointcut of one domain can
-- stand as an operand.
theorem Uniform.derives (hu : p.Uniform domain) (hs : ∀ d ∈ p.leaves, d.Readable)
    (hn : p.nesting ≤ room) (ht : ts.map (·.token) = p.tokens) :
    ∃ e, Derives .operand room e ts ∧ e.unplaced = p.expression := by
  induction hu generalizing room ts
  case leaf d _ =>
    have hd : d.Spelled (ts.map (·.token)) := ht ▸ (hs d (List.mem_singleton_self d)).spelled
    exact ⟨_, .leaf hd, rfl⟩
  case not p _ hi =>
    obtain ⟨i, ts, rfl, ht'⟩ := map_token_eq_cons.mp ht
    obtain ⟨room, rfl⟩ := Nat.exists_eq_add_of_le' (Nat.le_of_add_left_le hn)
    obtain ⟨e, hd, he⟩ := hi hs (Nat.le_of_add_le_add_right hn) ht'
    exact ⟨_, .not hd, congrArg Expression.not he⟩
  case and l r _ _ hl hr =>
    obtain ⟨i, ls, j, rs, k, rfl, htl, htr⟩ := map_token_eq_group ht
    obtain ⟨room, rfl⟩ := Nat.exists_eq_add_of_le' (Nat.le_of_add_left_le hn)
    obtain ⟨hnl, hnr⟩ := Nat.max_le.mp (Nat.le_of_add_le_add_right hn)
    obtain ⟨hsl, hsr⟩ := List.forall_mem_append.mp hs
    obtain ⟨l', hdl, hel⟩ := hl hsl hnl htl
    obtain ⟨r', hdr, her⟩ := hr hsr hnr htr
    refine ⟨.and l' r' j, ?_, by rw [Expression.unplaced, hel, her]; rfl⟩
    simpa using Derives.group (.conjunction (.and (.operand hdl) hdr))
  case or l r _ _ hl hr =>
    obtain ⟨i, ls, j, rs, k, rfl, htl, htr⟩ := map_token_eq_group ht
    obtain ⟨room, rfl⟩ := Nat.exists_eq_add_of_le' (Nat.le_of_add_left_le hn)
    obtain ⟨hnl, hnr⟩ := Nat.max_le.mp (Nat.le_of_add_le_add_right hn)
    obtain ⟨hsl, hsr⟩ := List.forall_mem_append.mp hs
    obtain ⟨l', hdl, hel⟩ := hl hsl hnl htl
    obtain ⟨r', hdr, her⟩ := hr hsr hnr htr
    refine ⟨.or l' r' j, ?_, by rw [Expression.unplaced, hel, her]; rfl⟩
    simpa using Derives.group (.or (.conjunction (.operand hdl)) (.operand hdr))

theorem Constructible.derives (hp : Constructible p) (hs : ∀ d ∈ p.leaves, d.Readable)
    (hn : p.nesting ≤ room) (ht : ts.map (·.token) = p.tokens) :
    ∃ e, Derives .disjunction room e ts ∧ e.unplaced = p.expression := by
  rcases constructible_iff.mp hp with ⟨domain, hu⟩ | ⟨l, r, rfl, hul, hur⟩
  case inl =>
    obtain ⟨e, hd, he⟩ := hu.derives hs hn ht
    exact ⟨e, .of_operand hd, he⟩
  case inr =>
    obtain ⟨ls, j, rs, rfl, htl, htr⟩ := map_token_eq_append.mp ht
    obtain ⟨hnl, hnr⟩ := Nat.max_le.mp hn
    obtain ⟨hsl, hsr⟩ := List.forall_mem_append.mp hs
    obtain ⟨l', hdl, hel⟩ := hul.derives hsl hnl htl
    obtain ⟨r', hdr, her⟩ := hur.derives hsr hnr htr
    refine ⟨.or l' r' j, .or (.of_operand hdl) (.of_operand hdr), ?_⟩
    rw [Expression.unplaced, hel, her]
    rfl

end Derivations

namespace Parser

variable {α β : Type} {ts mid : List Located} {f : ParseFault} {room i : Nat} {e : Expression}

theorem bind_of_error {x : Parser α} {g : α → Parser β} (h : x ts = .error f) :
    (x >>= g) ts = .error f := by
  change (x ts >>= fun p => g p.1 p.2) = _
  rw [h]
  rfl

-- There are too many negations and parentheses around one another.
def Refuses (parser : Parser Expression) (ts : List Located) : Prop :=
  ∃ position, parser ts = .error ⟨.nesting, some position⟩

namespace Refuses

variable {operand : Parser Expression} {operator : Token}
variable {join : Expression → Expression → Nat → Expression}

theorem first (h : Refuses operand ts) : Refuses (joined operand operator join) ts :=
  h.imp fun _ h => bind_of_error h

-- The second operand is read as soon as there is the operator behind the first one.
theorem second (he : operand ts = .ok (e, ⟨operator, i⟩ :: mid)) (h : Refuses operand mid) :
    Refuses (joined operand operator join) ts := by
  obtain ⟨position, h⟩ := h
  refine ⟨position, ?_⟩
  rw [joined, bind_of_ok he, get_bind, List.length_cons, moreOperands, get_bind]
  simp only [if_true, set_bind]
  exact bind_of_error h

theorem negation (h : ∀ r, room = r + 1 → Refuses (Parser.operand r) ts) :
    Refuses (Parser.operand room) (⟨.not, i⟩ :: ts) := by
  cases room
  case zero      => exact ⟨i, rfl⟩
  case succ room =>
    obtain ⟨position, h⟩ := h room rfl
    refine ⟨position, ?_⟩
    rw [Parser.operand, get_bind]
    simp only [set_bind]
    exact bind_of_error h

theorem group (h : ∀ r, room = r + 1 → Refuses (disjunction (Parser.operand r)) ts) :
    Refuses (Parser.operand room) (⟨.openParen, i⟩ :: ts) := by
  cases room
  case zero      => exact ⟨i, rfl⟩
  case succ room =>
    obtain ⟨position, h⟩ := h room rfl
    refine ⟨position, ?_⟩
    rw [Parser.operand, get_bind]
    simp only [set_bind]
    exact bind_of_error h

theorem second_and (hd : Derives .operand room e ts) (h : Refuses (Parser.operand room) mid) :
    Refuses (conjunction (Parser.operand room)) (ts ++ ⟨.and, i⟩ :: mid) :=
  second ((operand_recognizes room).eq_ok.mpr ⟨ts, rfl, hd, trivial⟩) h

theorem second_or (hd : Derives .conjunction room e ts)
    (h : Refuses (conjunction (Parser.operand room)) mid) :
    Refuses (disjunction (Parser.operand room)) (ts ++ ⟨.or, i⟩ :: mid) :=
  second ((operand_recognizes room).conjunction.eq_ok.mpr ⟨ts, rfl, hd, by simp [ahead]⟩) h

variable {domain : Domain} {p : Pointcut}

-- With less room than there are negations and parentheses around one another, the text of a
-- pointcut is not read.
theorem of_uniform (hu : p.Uniform domain) (hs : ∀ d ∈ p.leaves, d.Readable)
    (hn : room < p.nesting) (ht : ts.map (·.token) = p.tokens) (rest : List Located) :
    Refuses (Parser.operand room) (ts ++ rest) := by
  induction hu generalizing room ts rest
  case leaf => cases hn
  case not p _ hi =>
    obtain ⟨i, ts, rfl, ht'⟩ := map_token_eq_cons.mp ht
    exact .negation fun r hr => hi hs (Nat.lt_of_add_lt_add_right (hr ▸ hn)) ht' rest
  case and l r hul _ hl hr =>
    obtain ⟨i, ls, j, rs, k, rfl, htl, htr⟩ := map_token_eq_group ht
    obtain ⟨hsl, hsr⟩ := List.forall_mem_append.mp hs
    rw [List.cons_append, List.append_assoc, List.cons_append, List.append_assoc]
    refine .group fun room hroom => .first ?_
    by_cases hnl : l.nesting ≤ room
    case neg => exact .first (hl hsl (Nat.lt_of_not_le hnl) htl _)
    case pos =>
      obtain ⟨l', hdl, _⟩ := hul.derives hsl hnl htl
      have hnr : room < r.nesting := by simp only [nesting] at hn; omega
      exact .second_and hdl (hr hsr hnr htr _)
  case or l r hul _ hl hr =>
    obtain ⟨i, ls, j, rs, k, rfl, htl, htr⟩ := map_token_eq_group ht
    obtain ⟨hsl, hsr⟩ := List.forall_mem_append.mp hs
    rw [List.cons_append, List.append_assoc, List.cons_append, List.append_assoc]
    refine .group fun room hroom => ?_
    by_cases hnl : l.nesting ≤ room
    case neg => exact .first (.first (hl hsl (Nat.lt_of_not_le hnl) htl _))
    case pos =>
      obtain ⟨l', hdl, _⟩ := hul.derives hsl hnl htl
      have hnr : room < r.nesting := by simp only [nesting] at hn; omega
      exact .second_or (.operand hdl) (.first (hr hsr hnr htr _))

theorem of_constructible (hp : Constructible p) (hs : ∀ d ∈ p.leaves, d.Readable)
    (hn : room < p.nesting) (ht : ts.map (·.token) = p.tokens) :
    Refuses (disjunction (Parser.operand room)) ts := by
  rcases constructible_iff.mp hp with ⟨domain, hu⟩ | ⟨l, r, rfl, hul, hur⟩
  case inl =>
    have h := of_uniform hu hs hn ht []
    rw [List.append_nil] at h
    exact .first (.first h)
  case inr =>
    obtain ⟨ls, j, rs, rfl, htl, htr⟩ := map_token_eq_append.mp ht
    obtain ⟨hsl, hsr⟩ := List.forall_mem_append.mp hs
    by_cases hnl : l.nesting ≤ room
    case neg => exact .first (.first (of_uniform hul hsl (Nat.lt_of_not_le hnl) htl _))
    case pos =>
      obtain ⟨l', hdl, _⟩ := hul.derives hsl hnl htl
      have hnr : room < r.nesting := by simp only [nesting] at hn; omega
      have h := of_uniform hur hsr hnr htr []
      rw [List.append_nil] at h
      exact .second_or (.operand hdl) (.first h)

end Refuses
end Parser

end Interpose.Pointcut
