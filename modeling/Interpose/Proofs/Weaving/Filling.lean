import Interpose.Weaving.Template

namespace Interpose.Template

-- What a template is made of: characters that stand for themselves and places for arguments, which
-- are numbered.
inductive Piece where
  | char (c : Char)
  | place (k : Nat)

namespace Piece

def number? : Piece → Option Nat
  | char _ => none
  | place k => some k

-- What stands for a piece in the text that these arguments give.
def filled (args : List String) : Piece → List Char
  | char c => [c]
  | place k => (args.getD k "").toList

end Piece

-- The numbers of the places.
def places (ps : List Piece) : List Nat :=
  ps.filterMap Piece.number?

-- The text is made of these pieces, with places that are numbered from `k` on.
inductive Reads : Nat → List Char → List Piece → Prop
  | nil {k : Nat} : Reads k [] []
  | plain {k : Nat} {c : Char} {t : List Char} {ps : List Piece} : c ≠ '%' → Reads k t ps →
    Reads k (c :: t) (.char c :: ps)
  | percent {k : Nat} {t : List Char} {ps : List Piece} : Reads k t ps →
    Reads k ('%' :: '%' :: t) (.char '%' :: ps)
  | place {k : Nat} {c : Char} {t : List Char} {ps : List Piece} : c = 's' ∨ c = 'd' →
    Reads (k + 1) t ps → Reads k ('%' :: c :: t) (.place k :: ps)

-- Why the rest of a template cannot be filled if so many placeholders are before it and so many
-- arguments are left.
inductive Blocked (used : Nat) : Nat → List Char → TemplateFault → Prop
  | unknown {left : Nat} {c : Char} {t : List Char} : c ≠ '%' → c ≠ 's' → c ≠ 'd' →
    Blocked used left ('%' :: c :: t) (.unknown c)
  | dangling {left : Nat} : Blocked used left ['%'] .dangling
  | missing {c : Char} {t : List Char} : c = 's' ∨ c = 'd' →
    Blocked used 0 ('%' :: c :: t) (.missing (used + 1))
  | surplus {left : Nat} : 0 < left → Blocked used left [] (.surplus used (used + left))

-- The leftmost problem of a template that is given `n` arguments: all before it is made of pieces,
-- and there are arguments for its places.
inductive Problem (n : Nat) : List Char → TemplateFault → Prop
  | intro {s t : List Char} {ps : List Piece} {left : Nat} {fault : TemplateFault} : Reads 0 s ps →
    (places ps).length + left = n → Blocked (places ps).length left t fault →
    Problem n (s ++ t) fault

variable {k n : Nat} {c : Char} {s t : List Char} {ps : List Piece} {args : List String}
variable {fault : TemplateFault}

section Reading

theorem places_place : (places (.place k :: ps)).length = (places ps).length + 1 :=
  rfl

theorem Reads.places_eq (h : Reads k s ps) : places ps = List.range' k (places ps).length := by
  induction h
  case nil          => rfl
  case plain hi     => exact hi
  case percent hi   => exact hi
  case place hi     => exact congrArg _ hi

-- A template is read one character or escape after the other.
@[elab_as_elim]
theorem escape_induction {motive : List Char → Prop} (nil : motive [])
    (plain : ∀ c t, c ≠ '%' → motive t → motive (c :: t)) (dangling : motive ['%'])
    (escape : ∀ c t, motive t → motive ('%' :: c :: t)) : ∀ s, motive s
  | [] => nil
  | [c] => if h : c = '%' then h ▸ dangling else plain c [] h nil
  | c :: d :: t =>
    if h : c = '%' then h ▸ escape d t (escape_induction nil plain dangling escape t)
    else plain c (d :: t) h (escape_induction nil plain dangling escape (d :: t))

-- A template is made of pieces up to its end, with one place for each argument, or up to where the
-- rest is blocked.
theorem exists_reads (k n : Nat) (s : List Char) : ∃ before rest ps left, s = before ++ rest ∧
    Reads k before ps ∧ (places ps).length + left = n ∧
    (rest = [] ∧ left = 0 ∨ ∃ fault, Blocked (k + (places ps).length) left rest fault) := by
  induction s using escape_induction generalizing k n
  case nil =>
    refine ⟨[], [], [], n, rfl, .nil, Nat.zero_add n, ?_⟩
    cases n
    case zero   => exact .inl ⟨rfl, rfl⟩
    case succ n => exact .inr ⟨_, .surplus n.succ_pos⟩
  case plain c t hc hi =>
    obtain ⟨before, rest, ps, left, rfl, hr, hn, hb⟩ := hi k n
    exact ⟨c :: before, rest, .char c :: ps, left, rfl, .plain hc hr, hn, hb⟩
  case dangling =>
    exact ⟨[], ['%'], [], n, rfl, .nil, Nat.zero_add n, .inr ⟨_, .dangling⟩⟩
  case escape c t hi =>
    by_cases hp : c = '%'
    case pos =>
      subst hp
      obtain ⟨before, rest, ps, left, rfl, hr, hn, hb⟩ := hi k n
      exact ⟨'%' :: '%' :: before, rest, .char '%' :: ps, left, rfl, .percent hr, hn, hb⟩
    case neg =>
    by_cases hc : c = 's' ∨ c = 'd'
    case neg =>
      have ⟨hs, hd⟩ := not_or.mp hc
      exact ⟨[], '%' :: c :: t, [], n, rfl, .nil, Nat.zero_add n, .inr ⟨_, .unknown hp hs hd⟩⟩
    case pos =>
      cases n
      case zero => exact ⟨[], '%' :: c :: t, [], 0, rfl, .nil, rfl, .inr ⟨_, .missing hc⟩⟩
      case succ n =>
        obtain ⟨before, rest, ps, left, rfl, hr, hn, hb⟩ := hi (k + 1) n
        refine ⟨'%' :: c :: before, rest, .place k :: ps, left, rfl, .place hc hr, ?_, ?_⟩
        case refine_1 => rw [places_place]; omega
        case refine_2 => rwa [places_place, Nat.add_comm _ 1, ← Nat.add_assoc]

end Reading

section Filling

theorem fillFrom_plain (hc : c ≠ '%') :
    fillFrom k (c :: t) args = (fillFrom k t args).map (c :: ·) := by
  rw [fillFrom]
  all_goals
    intros
    contradiction

theorem fillFrom_place (hc : c = 's' ∨ c = 'd') (arg : String) :
    fillFrom k ('%' :: c :: t) (arg :: args) =
      (fillFrom (k + 1) t args).map (arg.toList ++ ·) := by
  rcases hc with rfl | rfl <;> rfl

theorem Blocked.fillFrom_eq (h : Blocked k args.length t fault) :
    fillFrom k t args = .error fault := by
  generalize hl : args.length = left at h
  cases h
  case unknown hp hs hd =>
    rw [fillFrom]
    all_goals
      intros
      contradiction
  case dangling => rfl
  case missing hc =>
    cases List.eq_nil_of_length_eq_zero hl
    rcases hc with rfl | rfl <;> rfl
  case surplus hpos =>
    subst hl
    obtain ⟨arg, args, rfl⟩ := List.exists_cons_of_length_pos hpos
    rfl

theorem map_append_map (x : Except TemplateFault (List Char)) (u v : List Char) :
    (x.map (v ++ ·)).map (u ++ ·) = x.map (u ++ v ++ ·) := by
  cases x
  case error => rfl
  case ok w  => exact congrArg Except.ok (List.append_assoc u v w).symm

-- The pieces of a template are filled, whatever is behind them. The arguments that others have used
-- stay in front, so that each place finds the one with its number.
theorem Reads.fillFrom_append (done : List String) (h : Reads k s ps) (hk : done.length = k)
    (hn : (places ps).length ≤ args.length) :
    fillFrom k (s ++ t) args =
      (fillFrom (k + (places ps).length) t (args.drop (places ps).length)).map
        (ps.flatMap (Piece.filled (done ++ args)) ++ ·) := by
  induction h generalizing done args
  case nil k =>
    change _ = id <$> fillFrom k t args
    exact (id_map _).symm
  case plain c s ps hc _ hi =>
    rw [List.cons_append, fillFrom_plain hc, hi done hk hn]
    exact map_append_map _ [c] _
  case percent k s _ _ hi =>
    change (fillFrom k (s ++ t) args).map (['%'] ++ ·) = _
    rw [hi done hk hn]
    exact map_append_map _ ['%'] _
  case place k c s ps hc _ hi =>
    cases args
    case nil => cases hn
    case cons arg args =>
      have hf : (done ++ arg :: args).getD k "" = arg := by
        simp [← hk]
      have hl : (done ++ [arg]).length = k + 1 := by
        simp [hk]
      rw [List.cons_append, List.cons_append, fillFrom_place hc,
        hi (done ++ [arg]) hl (Nat.le_of_succ_le_succ hn), List.append_assoc, map_append_map,
        List.flatMap_cons, Piece.filled, hf, places_place, Nat.add_right_comm]
      rfl

variable {template text : String}

theorem fill_of_reads (h : Reads 0 template.toList ps) (hp : places ps = List.range args.length) :
    fill template args = .ok (String.ofList (ps.flatMap (Piece.filled args))) := by
  have hn : (places ps).length = args.length := by
    rw [hp, List.length_range]
  have hf := h.fillFrom_append (t := []) [] rfl (Nat.le_of_eq hn)
  rw [hn, List.drop_length, List.append_nil] at hf
  rw [fill, hf]
  exact congrArg (Except.ok ∘ String.ofList) (List.append_nil _)

theorem fill_of_problem (h : Problem args.length template.toList fault) :
    fill template args = .error (.template template fault) := by
  rw [fill]
  generalize template.toList = s at h
  cases h
  case intro s t ps left hr hn hb =>
    have hl : (args.drop (places ps).length).length = left := by
      rw [List.length_drop, ← hn, Nat.add_sub_cancel_left]
    have hle : (places ps).length ≤ args.length := hn ▸ Nat.le_add_right ..
    subst hl
    rw [hr.fillFrom_append [] rfl hle, Nat.zero_add, hb.fillFrom_eq]
    rfl

theorem reads_or_problem (n : Nat) (s : List Char) :
    (∃ ps, Reads 0 s ps ∧ places ps = List.range n) ∨ ∃ fault, Problem n s fault := by
  obtain ⟨before, rest, ps, left, rfl, hr, hn, ⟨rfl, rfl⟩ | ⟨fault, hb⟩⟩ := exists_reads 0 n s
  case inl =>
    have hp := hr.places_eq
    rw [List.append_nil]
    exact .inl ⟨ps, hr, by rw [hp, ← hn, List.range_eq_range', Nat.add_zero]⟩
  case inr =>
    rw [Nat.zero_add] at hb
    exact .inr ⟨fault, .intro hr hn hb⟩

theorem fill_eq_ok : fill template args = .ok text ↔ ∃ ps, Reads 0 template.toList ps ∧
    places ps = List.range args.length ∧ text.toList = ps.flatMap (Piece.filled args) := by
  constructor
  case mp =>
    intro h
    rcases reads_or_problem args.length template.toList with ⟨ps, hr, hp⟩ | ⟨fault, hf⟩
    case inl =>
      cases h.symm.trans (fill_of_reads hr hp)
      exact ⟨ps, hr, hp, String.toList_ofList⟩
    case inr => cases h.symm.trans (fill_of_problem hf)
  case mpr =>
    rintro ⟨ps, hr, hp, ht⟩
    rw [fill_of_reads hr hp, ← ht, String.ofList_toList]

theorem fill_eq_error {e : WeavingError} : fill template args = .error e ↔
    ∃ fault, e = .template template fault ∧ Problem args.length template.toList fault := by
  constructor
  case mp =>
    intro h
    rcases reads_or_problem args.length template.toList with ⟨ps, hr, hp⟩ | ⟨fault, hf⟩
    case inl => cases h.symm.trans (fill_of_reads hr hp)
    case inr =>
      cases h.symm.trans (fill_of_problem hf)
      exact ⟨fault, rfl, hf⟩
  case mpr =>
    rintro ⟨fault, rfl, hf⟩
    exact fill_of_problem hf

end Filling

-- A template is filled just if it is made of characters and places up to its end, with a place for
-- each argument; then the argument of its number stands in each place. Otherwise the error has the
-- leftmost problem of the template.
theorem fill_exact (template : String) (args : List String) :
    (∀ text, fill template args = .ok text ↔ ∃ ps, Reads 0 template.toList ps ∧
      places ps = List.range args.length ∧ text.toList = ps.flatMap (Piece.filled args)) ∧
    ∀ e, fill template args = .error e ↔
      ∃ fault, e = .template template fault ∧ Problem args.length template.toList fault :=
  ⟨fun _ => fill_eq_ok, fun _ => fill_eq_error⟩

-- The text of an argument is not read again.
example : fill "%%s is 100%% of %s%d" ["%d", "7"] = .ok "%s is 100% of %d7" :=
  rfl

end Interpose.Template
