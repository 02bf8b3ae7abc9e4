import Interpose.Toml.Document
import Interpose.Proofs.Toml.Section

namespace Interpose.Toml.Reader

variable {α β : Type} {P : α → Prop} {Q : β → Prop} {r s : Reader α} {f : α → Reader β}

section Rules

-- Whatever the reader gives is of this kind.
def Gives (P : α → Prop) (r : Reader α) : Prop :=
  ∀ cs a rest, r.run cs = some (a, rest) → P a

namespace Gives

theorem pure {a : α} (h : P a) : Gives P (Pure.pure a) := by
  intro cs b rest hr
  cases hr
  exact h

theorem refuse : Gives P refuse :=
  fun _ _ _ h => nomatch h

theorem bind (h : Gives P r) (hf : ∀ a, P a → Gives Q (f a)) : Gives Q (r >>= f) := by
  intro cs b rest hb
  rw [StateT.run_bind] at hb
  obtain ⟨⟨a, cs'⟩, ha, hb⟩ := Option.bind_eq_some_iff.mp hb
  exact hf a (h cs a cs' ha) cs' b rest hb

-- Of what is read only to get past it nothing has to be known.
theorem after (hf : ∀ a, Gives Q (f a)) : Gives Q (r >>= f) :=
  bind (fun _ _ _ _ => trivial) fun a (_ : True) => hf a

theorem orElse (hr : Gives P r) (hs : Gives P s) : Gives P (r <|> s) := by
  intro cs a rest h
  change (r.run cs <|> s.run cs) = some (a, rest) at h
  cases hc : r.run cs <;> rw [hc] at h
  case none => exact hs cs a rest h
  case some => exact hr cs a rest (hc.trans h)

theorem option (h : Gives P r) : Gives (fun o => ∀ a ∈ o, P a) (option r) := by
  refine orElse ?_ (pure nofun)
  rw [map_eq_pure_bind]
  refine bind h fun a ha => pure ?_
  rintro _ ⟨⟩
  exact ha

theorem many (h : Gives P r) (bound : Nat) : Gives (fun as => ∀ a ∈ as, P a) (many r bound) := by
  induction bound
  case zero => exact pure nofun
  case succ bound hi =>
    refine bind h.option fun o ho => ?_
    split
    case h_1 a => exact bind hi fun as has => pure (List.forall_mem_cons.mpr ⟨ho a rfl, has⟩)
    case h_2   => exact pure nofun

theorem all (h : Gives P r) : Gives (fun as => ∀ a ∈ as, P a) (all r) :=
  after fun cs => h.many cs.length

theorem separated (h : Gives P r) (separator : Reader Unit) :
    Gives (fun as => ∀ a ∈ as, P a) (separated r separator) := by
  refine bind h.option fun o ho => ?_
  split
  case h_1   => exact pure nofun
  case h_2 a =>
    have hs : Gives P (do separator; r) := after fun _ => h
    exact bind hs.all fun as has => pure (List.forall_mem_cons.mpr ⟨ho a rfl, has⟩)

end Gives

end Rules

section Values

variable {value : Reader Value}

theorem gives_entry (h : Gives Value.Distinct value) :
    Gives (fun e : List String × String × Value => e.2.2.Distinct) (entry value) := by
  refine .after fun keys => .after fun _ => .after fun _ => .bind h fun v hv => ?_
  split
  case h_1 => exact .pure hv
  case h_2 => exact .refuse

theorem gives_array (h : Gives Value.Distinct value) : Gives Value.Distinct (array value) := by
  have item : Gives Value.Distinct (do gap; let v ← value; gap; return v) :=
    .after fun _ => .bind h fun v hv => .after fun _ => .pure hv
  refine .after fun _ => .bind (item.separated _) fun items hi => ?_
  have close : Gives Value.Distinct (do gap; char ']'; return .array items) :=
    .after fun _ => .after fun _ => .pure (Value.eachTable_array.mpr hi)
  split
  case isTrue  => exact .after fun _ => close
  case isFalse => exact close

theorem gives_inlineTable (h : Gives Value.Distinct value) :
    Gives Value.Distinct (inlineTable value) := by
  have item : Gives (fun e : List String × String × Value => e.2.2.Distinct)
      (do let e ← entry value; spaces; return e) :=
    .bind (gives_entry h) fun e he => .after fun _ => .pure he
  refine .after fun _ => .bind (item.separated _) fun pairs hp => ?_
  refine .after fun _ => .after fun _ => ?_
  split
  case h_1 es he => exact .pure (Entries.Distinct.addAll Entries.distinct_nil hp he)
  case h_2       => exact .refuse

theorem gives_scalar : Gives Value.Distinct scalar := by
  have atom : ∀ {α} {r : Reader α} {f : α → Value}, (∀ a, (f a).IsAtom) →
      Gives Value.Distinct (do return f (← r)) :=
    fun hf => .after fun a => .pure (hf a).eachTable
  refine .after fun c => ?_
  split
  case h_1 => exact atom fun _ => trivial
  case h_2 => exact atom fun _ => trivial
  case h_3 => exact atom fun _ => trivial
  case h_4 => exact atom fun _ => trivial
  case h_5 =>
    exact .orElse (atom fun _ => trivial) (.orElse (atom fun _ => trivial) (atom fun _ => trivial))

theorem gives_valueAt (depth : Nat) : Gives Value.Distinct (valueAt depth) := by
  induction depth
  case zero => exact gives_scalar
  case succ depth hi =>
    refine .after fun c => ?_
    split
    case h_1 => exact gives_array hi
    case h_2 => exact gives_inlineTable hi
    case h_3 => exact gives_scalar

end Values

section Documents

variable {d : Draft}

theorem gives_ofOption {o : Option Draft} (h : ∀ d ∈ o, d.Distinct) :
    Gives Draft.Distinct (line.ofOption o) := by
  cases o
  case none   => exact .refuse
  case some d => exact .pure (h d rfl)

-- What one line makes of a draft.
theorem gives_line (h : d.Distinct) : Gives Draft.Distinct (line d) := by
  have close : ∀ {r : Reader Draft}, Gives Draft.Distinct r →
      Gives Draft.Distinct (do let draft ← r; spaces; return draft) :=
    fun hr => .bind hr fun _ hd => .after fun _ => .pure hd
  refine .after fun c => ?_
  split
  case h_1 => exact .after fun _ => .after fun _ => close (.pure h)
  case h_2 => exact .after fun _ => close (.pure h)
  case h_3 => exact .after fun _ => close (.pure h)
  case h_4 =>
    refine close (.orElse ?_ ?_)
    case refine_1 =>
      refine .after fun _ => .after fun keys => .after fun _ => .after fun _ => ?_
      exact gives_ofOption fun _ ho => h.openItem ho
    case refine_2 =>
      refine .after fun _ => .after fun keys => .after fun _ => .after fun _ => ?_
      exact gives_ofOption fun _ ho => h.openTable ho
  case h_5 =>
    refine .bind (gives_entry (gives_valueAt _)) fun e he => .after fun _ => close ?_
    exact gives_ofOption fun _ ho => h.add he ho

theorem gives_lines (bound : Nat) (h : d.Distinct) : Gives Draft.Distinct (lines bound d) := by
  induction bound generalizing d
  case zero => exact .pure h
  case succ bound hi =>
    refine .after fun c => ?_
    split
    case isTrue  => exact .pure h
    case isFalse => exact .bind (gives_line h) fun d hd => hi hd

theorem gives_document :
    Gives (fun v => v.Distinct ∧ ∃ entries, v = .table entries) document := by
  refine .after fun _ => .after fun _ => .after fun cs => ?_
  refine .bind (gives_lines _ Draft.distinct_empty) fun d hd => ?_
  split
  case h_1 v hv =>
    obtain ⟨es, he, rfl⟩ := Option.map_eq_some_iff.mp hv
    exact .pure ⟨hd.close he, _, rfl⟩
  case h_2 => exact .refuse

end Documents

end Interpose.Toml.Reader

namespace Interpose.Toml

-- A document is a table, and in none of its tables is a key given twice.
theorem distinct_of_parse {text : String} {v : Value} (h : parse text = some v) :
    v.Distinct ∧ ∃ entries, v = .table entries := by
  rw [parse] at h
  split at h
  case h_1 hr =>
    cases h
    exact Reader.gives_document _ _ _ hr
  case h_2 => cases h

end Interpose.Toml
