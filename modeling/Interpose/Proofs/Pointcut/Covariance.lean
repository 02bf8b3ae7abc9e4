import Interpose.Pointcut.TypePattern
import Interpose.Proofs.Metadata.Ancestry
import Interpose.Proofs.Pointcut.Spelling

namespace Interpose

open Relation

namespace NamePattern

theorem parse_eq_any {text : String} : parse text = any ↔ text = "*" := by
  rw [parse]
  by_cases h : text = "*"
  case pos => simp [h]
  case neg =>
    simp only [h, ↓reduceIte, iff_false]
    split <;> simp

theorem isAny_iff {p : NamePattern} : p.isAny = true ↔ p = any :=
  beq_iff_eq

end NamePattern

namespace TypePattern

variable {text base : String} {types : Hierarchy} {name : String} {p : TypePattern}

section Plus

theorem stripPlus_eq_some : stripPlus text = some base ↔ text = base ++ "+" := by
  rw [← String.toList_inj, stripPlus]
  split
  case h_1 cs hr =>
    have ht : text.toList = cs.reverse ++ ['+'] := by simpa using congrArg List.reverse hr
    simp [ht, ← String.toList_inj, eq_comm]
  case h_2 hr =>
    refine iff_of_false nofun fun ht => hr base.toList.reverse ?_
    simp [ht]

theorem stripPlus_eq_none : stripPlus text = none ↔ text.toList.getLast? ≠ some '+' := by
  rw [Option.eq_none_iff_forall_ne_some, ← not_exists, not_iff_not, List.getLast?_eq_some_iff]
  simp only [stripPlus_eq_some, ← String.toList_inj]
  constructor
  case mp  => exact fun ⟨base, h⟩ => ⟨base.toList, by simpa using h⟩
  case mpr => exact fun ⟨cs, h⟩ => ⟨String.ofList cs, by simpa using h⟩

-- The plus has no part in what is accepted by name.
theorem parse_plus (h : text.toList.getLast? ≠ some '+') :
    parse (text ++ "+") = { parse text with text := text ++ "+", covariant := true } := by
  have hp : stripPlus (text ++ "+") = some text := stripPlus_eq_some.mpr rfl
  simp [parse, hp, stripPlus_eq_none.mpr h]

theorem not_covariant (h : text.toList.getLast? ≠ some '+') : (parse text).covariant = false := by
  simp [parse, stripPlus_eq_none.mpr h]

end Plus

section Subtypes

theorem accepts_iff : p.accepts types name = true ↔
    p.acceptsName name = true ∨ p.covariant = true ∧
      ∃ above ∈ types.ancestors name, p.acceptsName above = true := by
  rw [accepts, Bool.or_eq_true, Bool.and_eq_true, List.any_eq_true]

theorem accepts_iff_of_covariant (h : p.covariant = true) : p.accepts types name = true ↔
    ∃ above, types.conforms above name = true ∧ p.acceptsName above = true := by
  simp only [accepts_iff, h, true_and, Hierarchy.conforms_iff, Hierarchy.mem_ancestors]
  constructor
  case mp =>
    intro ha
    cases ha
    case inl ha => exact ⟨name, .refl, ha⟩
    case inr ha =>
      have ⟨above, ⟨_, hr⟩, ha⟩ := ha
      exact ⟨above, hr, ha⟩
  case mpr =>
    intro ⟨above, hr, ha⟩
    by_cases he : above = name
    case pos => exact .inl (he ▸ ha)
    case neg => exact .inr ⟨above, ⟨he, hr⟩, ha⟩

theorem accepts_eq_of_not_covariant (h : p.covariant = false) :
    p.accepts types name = p.acceptsName name := by
  rw [accepts, h, Bool.false_and, Bool.or_false]

-- Whatever is above a type is above its subtypes too.
theorem accepts_subtype {below : String} (h : p.covariant = true)
    (hb : TransGen types.Declares below name) (ha : p.accepts types name = true) :
    p.accepts types below = true := by
  rw [accepts_iff_of_covariant h] at ha ⊢
  have ⟨above, hc, ha⟩ := ha
  have hr := hb.to_reflTransGen.trans (Hierarchy.conforms_iff.mp hc)
  exact ⟨above, Hierarchy.conforms_iff.mpr hr, ha⟩

end Subtypes

section Trivial

theorem isTrivial_iff : p.isTrivial = true ↔ p.package = .any ∧ p.name = .any := by
  rw [isTrivial, Bool.and_eq_true, NamePattern.isAny_iff, NamePattern.isAny_iff]

theorem accepts_of_isTrivial (h : p.isTrivial = true) : p.accepts types name = true := by
  have ⟨hp, hn⟩ := isTrivial_iff.mp h
  exact accepts_iff.mpr <| .inl (by simp [acceptsName, hp, hn, NamePattern.accepts])

theorem nameParts_eq_any : nameParts base = (.any, .any) ↔ base = "*" ∨ base = "*.*" := by
  rw [nameParts]
  by_cases h : base = "*"
  case pos => simp [h]
  case neg =>
    have hs : splitQualified base = some ("*", "*") ↔ base = "*.*" := by
      rw [splitQualified_eq_some]
      simp
    simp only [h, ↓reduceIte, false_or, ← hs]
    cases splitQualified base
    case none         => simp
    case some parts   => simp [NamePattern.parse_eq_any, Prod.ext_iff]

theorem isTrivial_parse_iff : (parse text).isTrivial = true ↔
    (stripPlus text).getD text = "*" ∨ (stripPlus text).getD text = "*.*" := by
  rw [isTrivial_iff, ← nameParts_eq_any, Prod.ext_iff, parse]

-- The texts that mean every type, without the plus and with it.
theorem isTrivial_parse : (parse text).isTrivial = true ↔ text ∈ ["*", "*.*", "*+", "*.*+"] := by
  rw [isTrivial_parse_iff]
  cases hs : stripPlus text
  case none =>
    have hp : ∀ base, text ≠ base ++ "+" := by
      intro base ht
      cases hs.symm.trans (stripPlus_eq_some.mpr ht)
    have h₁ : text ≠ "*+" := hp "*"
    have h₂ : text ≠ "*.*+" := hp "*.*"
    simp [h₁, h₂]
  case some base =>
    obtain rfl := stripPlus_eq_some.mp hs
    have hp : ∀ {text : String}, text.toList.getLast? ≠ some '+' → base ++ "+" ≠ text := by
      rintro _ hl rfl
      simp at hl
    have h₁ : base ++ "+" ≠ "*" := hp (by decide)
    have h₂ : base ++ "+" ≠ "*.*" := hp (by decide)
    have h₃ : base ++ "+" = "*+" ↔ base = "*" := @String.append_left_inj base "*" "+"
    have h₄ : base ++ "+" = "*.*+" ↔ base = "*.*" := @String.append_left_inj base "*.*" "+"
    simp [h₁, h₂, h₃, h₄]

end Trivial

-- With a plus a pattern accepts a type if the type conforms to one that the pattern accepts by its
-- name. So it accepts what it accepts without the plus, and with a type all types below it. The
-- patterns that mean every type accept every name, with a plus or without.
theorem covariant_closed (h : text.toList.getLast? ≠ some '+') (types : Hierarchy) :
    (∀ name, (parse (text ++ "+")).accepts types name = true ↔
      ∃ above, types.conforms above name = true ∧ (parse text).acceptsName above = true) ∧
    (∀ name, (parse text).accepts types name = true →
      (parse (text ++ "+")).accepts types name = true) ∧
    (∀ name below, TransGen types.Declares below name →
      (parse (text ++ "+")).accepts types name = true →
        (parse (text ++ "+")).accepts types below = true) ∧
    ∀ wide, ((parse wide).isTrivial = true ↔ wide ∈ ["*", "*.*", "*+", "*.*+"]) ∧
      ((parse wide).isTrivial = true → ∀ name, (parse wide).accepts types name = true) := by
  have hc : (parse (text ++ "+")).covariant = true := by rw [parse_plus h]
  have hn : (parse (text ++ "+")).acceptsName = (parse text).acceptsName := by
    rw [parse_plus h]
    rfl
  refine ⟨fun name => ?above, fun name ha => ?wider, fun name below hb => ?below, fun _ => ?wide⟩
  case above => rw [accepts_iff_of_covariant hc, hn]
  case wider =>
    rw [accepts_eq_of_not_covariant (not_covariant h), ← hn] at ha
    exact accepts_iff.mpr (.inl ha)
  case below   => exact accepts_subtype hc hb
  case wide    => exact ⟨isTrivial_parse, fun ht _ => accepts_of_isTrivial ht⟩

-- A repository is a store, which is no type of the set, and so is what implements the repository.
def stores : Hierarchy :=
  .ofList [
    { TypeDescription.plain "shop.SqlRepository" with supertypes := ["shop.Repository"] },
    { TypeDescription.plain "shop.Repository" with supertypes := ["shop.Store", "shop.Closeable"] }]

theorem covariant_closed_stores :
    "shop.Sto*".toList.getLast? ≠ some '+' ∧
      (parse "shop.Sto*").accepts stores "shop.SqlRepository" = false ∧
        (parse "shop.Sto*+").accepts stores "shop.SqlRepository" = true := by
  have hl : "shop.Sto*".toList.getLast? ≠ some '+' := by decide +kernel
  refine ⟨hl, by decide +kernel, ?_⟩
  have hd : stores.Declares "shop.SqlRepository" "shop.Repository" :=
    Hierarchy.mem_declared.mp (by decide +kernel)
  have ⟨above, _, below, _⟩ := covariant_closed hl stores
  refine below "shop.Repository" "shop.SqlRepository" (.single hd) ?_
  exact (above "shop.Repository").mpr ⟨"shop.Store", by decide +kernel, by decide +kernel⟩

end TypePattern
end Interpose
