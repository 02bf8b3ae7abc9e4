import Interpose.Proofs.Container.Creation
import Interpose.Proofs.Weaving.Injection
import Interpose.Proofs.Weaving.Recoding

namespace Interpose

open Outcome

variable {σ : Type} {s : Session σ}

namespace Container

variable {c : Container σ} {d : Definition σ} {services : Services σ} {typeName : String}

theorem make_of_unconstructed (hc : c.construction = none) : c.make services d s =
    (.error (.failed (.container .constructionMissing)), s) := by
  have hr : c.create services d s = (.error (.failed (.container .constructionMissing)), s) := by
    rw [create, hc]
    rfl
  cases hd : d.scope
  case prototype => exact make_of_prototype hd ▸ hr
  case singleton => exact make_of_error hd hr

-- Before it is known how instances are made, those that are there can be had, and asking for others
-- changes nothing.
theorem get_of_unconstructed (hc : c.construction = none) (services : Services σ)
    (typeName : String) (s : Session σ) :
    (∃ name h, s.cells.lookup name = some h ∧ c.get services typeName s = (.ok h, s)) ∨
      ∃ g, c.get services typeName s = (.error (.failed g), s) := by
  cases hr : c.resolve typeName
  case error => exact .inr ⟨_, get_of_unresolved hr⟩
  case ok d =>
    cases hs : shared? d s
    case some h => exact .inl ⟨d.name, h, (shared?_eq_some.mp hs).right, get_of_shared hr hs⟩
    case none =>
      rw [get_of_not_shared hr hs]
      cases hst : s.creating.start d.name
      case error => exact .inr ⟨_, tracked_of_cycle hst⟩
      case ok chain =>
        refine .inr ⟨.container .constructionMissing, ?_⟩
        rw [tracked_of_ok hst, make_of_unconstructed hc, CreationChain.finish_start hst]

end Container

namespace Blueprint

variable {b : Blueprint σ} {outside : String → Definition σ} {w : WovenContainer σ}

theorem build_of_error {e : WeavingError} (h : b.weave outside = .error e) (depth : Nat)
    (s : Session σ) : b.build outside depth s = (.ok (.error e), s) := by
  rw [build, h]
  rfl

-- Once all is woven, building is making the singletons.
theorem build_of_ok (h : b.weave outside = .ok w) (depth : Nat) (s : Session σ) :
    b.build outside depth s =
      match w.container.makeEager (w.container.services depth) s with
      | (.ok (), t) => (.ok (.ok { w with layer := w.layer.close }), t)
      | (.error (.failed g), t) => (.ok (.error (.runtime g)), t)
      | (.error .exhausted, t) => (.error .exhausted, t) := by
  rw [build, h]
  refine (Act.attempt_bind _ _ s).trans ?_
  rcases w.container.makeEager (w.container.services depth) s with ⟨_ | _, t⟩
  case ok => rfl
  case error halt => cases halt <;> rfl

-- Weaving runs no code: with any other code, be it about another state, it comes to the same, up to
-- the code that is passed on. What it holds of the container makes no instances. If it fails, then
-- this is all that happens, and else the singletons are made in the state in which building began.
theorem weave_runs_no_code (b : Blueprint σ) (outside : String → Definition σ) :
    (∀ (τ : Type) (f : Recoding τ) (outside' : String → Definition τ),
      (b.recoded f).weave outside' = (b.weave outside).map (·.recoded f outside')) ∧
    (∀ services typeName s,
      (∃ name h, s.cells.lookup name = some h ∧
        (b.unfinished outside).get services typeName s = (.ok h, s)) ∨
      ∃ g, (b.unfinished outside).get services typeName s = (.error (.failed g), s)) ∧
    (∀ e, b.weave outside = .error e → ∀ depth s,
      b.build outside depth s = (.ok (.error e), s)) ∧
    ∀ w, b.weave outside = .ok w → ∀ depth s,
      b.build outside depth s =
        match w.container.makeEager (w.container.services depth) s with
        | (.ok (), t) => (.ok (.ok { w with layer := w.layer.close }), t)
        | (.error (.failed g), t) => (.ok (.error (.runtime g)), t)
        | (.error .exhausted, t) => (.error .exhausted, t) :=
  ⟨fun _ f => b.weave_recoded f outside, Container.get_of_unconstructed rfl,
    fun _ => build_of_error, fun _ => build_of_ok⟩

-- An aspect with a pointcut that cannot be read.
def flickering : Aspect Unit :=
  (Aspect.make (.plain "shop.Flickering") fun _ => return .unit).around
    ((Method.advice "light").around "autowire(") .unit fun _ _ => return .text "candle"

def dimDesk : Blueprint Unit where
  registry := ⟨[desk, flickering.component], by decide +kernel⟩
  catalog := Catalog.empty.insert flickering.name flickering.advices
  config := .default

-- The desk is woven whatever its code is, even over another state, and then its making is all that
-- building comes to. The other desk is not built at all, and nothing happens to the state.
theorem weave_runs_no_code_desk :
    (∃ w : WovenContainer Unit, (∀ (f : Recoding Nat) outside', (litDesk.recoded f).weave outside' =
        .ok (w.recoded f outside')) ∧
      ∀ depth s h t, w.container.makeEager (w.container.services depth) s = (.ok h, t) →
        litDesk.build elsewhere depth s = (.ok (.ok { w with layer := w.layer.close }), t)) ∧
    ∃ e, ∀ depth s, dimDesk.build elsewhere depth s = (.ok (.error e), s) := by
  have hw : (litDesk.weave elsewhere).isOk := by decide +kernel
  have he : (dimDesk.weave elsewhere).isOk = false := by decide +kernel
  have ⟨w, hw⟩ := isOk_iff.mp hw
  have ⟨hrecoded, _, _, hbuilds⟩ := weave_runs_no_code litDesk elsewhere
  have ⟨_, _, hfails, _⟩ := weave_runs_no_code dimDesk elsewhere
  refine ⟨⟨w, fun f outside' => ?_, fun depth s h t hm => ?_⟩, ?_⟩
  · rw [hrecoded, hw]
    rfl
  · rw [hbuilds w hw, hm]
  · cases h : dimDesk.weave elsewhere
    case ok => rw [h] at he; cases he
    case error e => exact ⟨e, hfails e h⟩

end Blueprint
end Interpose
