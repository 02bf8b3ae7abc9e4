import Interpose.Proofs.Outcome
import Interpose.Source.ItemReader

namespace Interpose.Source

open Outcome

-- All arguments behind the first have a type.
def Function.TakesTyped (f : Function) : Prop :=
  ∀ a ∈ f.arguments.drop 1, ∃ type, a.1.type? = some type

namespace Reader

variable {α β : Type} {P : α → Prop} {Q : β → Prop} {r : Reader α} {f : α → Reader β}

section Rules

-- Whatever the reader gives is of this kind.
def Gives (P : α → Prop) (r : Reader α) : Prop :=
  ∀ tokens a rest, r.run tokens = .ok (a, rest) → P a

namespace Gives

theorem pure {a : α} (h : P a) : Gives P (Pure.pure a) := by
  intro _ _ _ hr
  cases hr
  exact h

theorem refuse : Gives P refuse :=
  fun _ _ _ h => nomatch h

theorem bind (h : Gives P r) (hf : ∀ a, P a → Gives Q (f a)) : Gives Q (r >>= f) := by
  intro tokens b rest hb
  rw [StateT.run_bind] at hb
  obtain ⟨⟨a, left⟩, ha, hb⟩ := bind_eq_ok.mp hb
  exact hf a (h tokens a left ha) left b rest hb

-- Of what is read only to get past it nothing has to be known.
theorem after (hf : ∀ a, Gives Q (f a)) : Gives Q (r >>= f) :=
  bind (fun _ _ _ _ => trivial) fun a (_ : True) => hf a

theorem only (h : Gives P r) {tokens : List Token} {a : α} (hr : r.only tokens = .ok a) : P a := by
  obtain ⟨⟨b, rest⟩, hb, hr⟩ := bind_eq_ok.mp hr
  cases rest <;> cases hr
  exact h tokens a [] hb

theorem within (h : Gives P r) (tokens : List Token) : Gives P (r.within tokens) := by
  intro start a rest hw
  rw [Reader.within, StateT.run_monadLift] at hw
  obtain ⟨b, hb, hw⟩ := bind_eq_ok.mp hw
  cases hw
  exact h.only hb

end Gives

end Rules

section Declarations

theorem type?_of_not_isReceiver {a : Argument} (h : isReceiver a = false) :
    ∃ type, a.type? = some type := by
  cases a
  case receiver     => cases h
  case typed type   => exact ⟨type, rfl⟩

theorem gives_signatureArguments :
    Gives (fun as => ∀ a ∈ as.drop 1, ∃ type, a.1.type? = some type) signatureArguments := by
  refine .after fun content => .after fun arguments => ?_
  split
  case isTrue    => exact .refuse
  case isFalse h =>
    refine .pure fun a ha => type?_of_not_isReceiver ?_
    simp only [List.any_eq_true, not_exists, not_and, Bool.not_eq_true] at h
    exact h a ha

theorem gives_function (attributes : List Attribute) (visibility : List Token) :
    Gives Function.TakesTyped (function attributes visibility) := by
  refine .after fun manner => .after fun _ => .after fun name => .after fun generics => ?_
  refine .bind gives_signatureArguments fun arguments h => ?_
  have behind : ∀ output : Option TypeExpr, Gives Function.TakesTyped (do
      let conditions ← conditions
      let body ← wholeGroup .brace
      return ⟨attributes, visibility, manner, name, generics, arguments, output, conditions, body⟩
        : Reader Function) :=
    fun output => .after fun conditions => .after fun body => .pure h
  refine .after fun arrow => ?_
  split
  case isTrue  => exact .after fun type => .after behind
  case isFalse => exact .after behind

theorem gives_member : Gives (fun m => ∀ f ∈ m.function?, f.TakesTyped) member := by
  refine .after fun attributes => .after fun visibility => .after fun constant => ?_
  split
  case isTrue  => exact .after fun tokens => .pure nofun
  case isFalse =>
    refine .bind (gives_function attributes visibility) fun f h => .pure ?_
    rintro _ ⟨⟩
    exact h

theorem gives_members (bound : Nat) :
    Gives (fun ms => ∀ m ∈ ms, ∀ f ∈ m.function?, f.TakesTyped) (members bound) := by
  induction bound
  case zero => exact .pure nofun
  case succ bound hi =>
    refine .after fun closed => ?_
    split
    case isTrue  => exact .pure nofun
    case isFalse =>
      refine .bind gives_member fun m hm => .bind hi fun ms hms => .pure ?_
      exact List.forall_mem_cons.mpr ⟨hm, hms⟩

theorem gives_block : Gives (fun b => ∀ f ∈ b.functions, f.TakesTyped) block := by
  have content : ∀ (generic ofTrait : Bool) (type : TypeExpr) (conditions : List Token),
      Gives (fun b => ∀ f ∈ b.functions, f.TakesTyped) (do
        let content ← group .brace
        let members ← (members content.length).within content
        return { generic, ofTrait, type, conditions, members } : Reader Block) := by
    intro generic ofTrait type conditions
    refine .after fun content => ?_
    refine .bind ((gives_members content.length).within content) fun ms h => .pure fun f hf => ?_
    obtain ⟨m, hm, hf⟩ := List.mem_filterMap.mp hf
    exact h m hm f hf
  -- Once the parameters are read, it makes no difference whether there were any.
  refine .after fun _ => .after fun tokens => ?_
  split
  all_goals
    refine .after fun generics => .after fun first => .after fun isFor => ?_
    split
    case isTrue =>
      split
      case h_1 => exact .after fun type => .after fun _ => .after fun _ => content _ _ _ _
      case h_2 => exact .after fun _ => .after fun _ => content _ _ _ _
    case isFalse => exact .after fun _ => .after fun _ => content _ _ _ _

end Declarations

end Reader

theorem Block.takesTyped_of_parse {source : String} {b : Block} (h : Block.parse source = .ok b) :
    ∀ f ∈ b.functions, f.TakesTyped := by
  obtain ⟨tokens, _, h⟩ := bind_eq_ok.mp h
  exact Reader.gives_block.only h

end Interpose.Source
