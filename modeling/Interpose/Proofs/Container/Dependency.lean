import Mathlib.Data.List.Induction
import Mathlib.Logic.Relation
import Interpose.Proofs.Component.Registry
import Interpose.Proofs.Container.Creation

namespace Interpose

open Relation

variable {σ α β : Type}

namespace Container

variable (c : Container σ)

-- A component has a field for another one.
def Needs (name name' : String) : Prop :=
  ∃ d ∈ c.registry.definitions, d.name = name ∧ ∃ f ∈ d.type.injectedFields, ∃ d',
    c.resolve f.fieldType = .ok d' ∧ d'.name = name'

-- A component that needs itself is needed, perhaps through others.
def Cyclic (name : String) : Prop :=
  ∃ n, ReflTransGen c.Needs name n ∧ TransGen c.Needs n n

-- No component that has been made comes upon a cycle.
def Stocked (s : Session σ) : Prop :=
  ∀ name h, s.cells.lookup name = some h → ¬c.Cyclic name

-- Fills fields in order.
def wiring (services : Services σ) (fs : List Field) : Act σ Wiring :=
  fs.foldlM (fun w f => do return w.insert f.name (← c.providers.get services f.fieldType)) .empty

variable {c} {d d' : Definition σ} {services : Services σ} {s s' : Session σ} {typeName : String}

section Graph

variable {name name' : String}

theorem Cyclic.of_needs (hn : c.Needs name name') (h : c.Cyclic name') : c.Cyclic name := by
  obtain ⟨n, hr, ht⟩ := h
  exact ⟨n, .head hn hr, ht⟩

theorem Cyclic.exists_needs (h : c.Cyclic name) : ∃ name', c.Needs name name' ∧ c.Cyclic name' := by
  obtain ⟨n, hr, ht⟩ := h
  cases hr.cases_head
  case inl he =>
    obtain ⟨name', hn, hr⟩ := TransGen.head'_iff.mp ht
    exact ⟨name', he ▸ hn, n, hr, ht⟩
  case inr he =>
    obtain ⟨name', hn, hr⟩ := he
    exact ⟨name', hn, n, hr, ht⟩

theorem needs_iff (hd : d ∈ c.registry.definitions) : c.Needs d.name name ↔
    ∃ f ∈ d.type.injectedFields, ∃ d', c.resolve f.fieldType = .ok d' ∧ d'.name = name := by
  constructor
  case mp =>
    rintro ⟨e, he, hn, h⟩
    cases Option.some.inj <| (Registry.get?_eq_some he).symm.trans <|
      hn ▸ Registry.get?_eq_some hd
    exact h
  case mpr => exact fun h => ⟨d, hd, rfl, h⟩

end Graph

section Providers

-- A provider asks for its component.
theorem get_provider (services : Services σ) (name : String) :
    (provider name).get services = do return (← services.get name).toValue := by
  funext s
  rw [Provider.get, provider, Behaviour.runPlain_get]
  rcases h : services.get name s with ⟨_ | _, t⟩
  case ok =>
    rw [Step.bind_of_ok h]
    rfl
  case error halt =>
    rw [Step.bind_of_error h]
    cases halt <;> rfl

-- What a provider gives is what the container gives.
theorem providers_get (hr : c.resolve typeName = .ok d) (s : Session σ) :
    c.providers.get services typeName s =
      (services.get d.name >>= fun h => pure h.toValue) s := by
  rw [← get_provider, Providers.get, providers, componentFor, hr]
  rfl

theorem providers_get_of_unresolved {e : ContainerError} (hr : c.resolve typeName = .error e) :
    c.providers.get services typeName s = (.error (.failed (.container e)), s) := by
  rw [Providers.get, providers, componentFor, hr]
  rfl

-- What is asked for by a type is what is asked for by the name of the component for it.
theorem get_name (hr : c.resolve typeName = .ok d) :
    c.get services d.name = c.get services typeName := by
  have hd : c.resolve d.name = .ok d := Registry.resolve_name (Registry.mem_of_resolve hr)
  rw [get, get, find, find, hd, hr]

-- Asking a provider takes a level of calls.
theorem providers_get_eq {depth : Nat} (ha : s.dropped = false) :
    c.providers.get (c.services (depth + 1)) typeName s =
      (Handle.toValue <$> c.get (c.services depth) typeName) s := by
  rw [map_eq_pure_bind]
  cases hr : c.resolve typeName
  case error =>
    rw [providers_get_of_unresolved hr, Step.bind_of_error (get_of_unresolved hr)]
  case ok d =>
    have hg : (c.services (depth + 1)).get d.name s = c.get (c.services depth) typeName s :=
      (getWhileAlive_of_alive ha).trans (congrFun (get_name hr) s)
    rw [providers_get hr, Step.bind_congr_left hg]

end Providers

section Wiring

theorem providers_get_eq_ok {v : Value} (hv : c.providers.get services typeName s = (.ok v, s')) :
    ∃ d h, c.resolve typeName = .ok d ∧ services.get d.name s = (.ok h, s') ∧ v = h.toValue := by
  cases hr : c.resolve typeName
  case error =>
    rw [Providers.get, providers, componentFor, hr] at hv
    cases hv
  case ok d =>
    rw [providers_get hr] at hv
    obtain ⟨h, _, hg, hv⟩ := Step.bind_eq_ok.mp hv
    cases hv
    exact ⟨d, h, rfl, hg, rfl⟩

theorem wiring_append (fs gs : List Field) : c.wiring services (fs ++ gs) =
    c.wiring services fs >>= fun w => gs.foldlM (fun w f => do
      return w.insert f.name (← c.providers.get services f.fieldType)) w :=
  List.foldlM_append

theorem wiring_snoc (fs : List Field) (f : Field) : c.wiring services (fs ++ [f]) =
    c.wiring services fs >>= fun w => do
      return w.insert f.name (← c.providers.get services f.fieldType) := by
  rw [wiring_append]
  exact bind_congr fun w => bind_pure _

theorem runPlain_code (d : Definition σ) : (d.code c.providers).runPlain services =
    c.wiring services d.type.injectedFields >>= fun w =>
      (d.assembling w).runPlain services := by
  rw [Definition.code, Behaviour.runPlain_bind, Definition.runPlain_filling]
  simp only [Providers.runPlain_code]
  rfl

end Wiring

section Stock

-- What is asked of the services of a container: they keep it stocked, and no component that they
-- give comes upon a cycle.
structure Stocks (c : Container σ) (services : Services σ) : Prop where
  get : ∀ typeName {s}, c.Stocked s → c.Stocked (services.get typeName s).2
  invoke : ∀ h caller method args {s}, c.Stocked s →
    c.Stocked (services.invoke h caller method args s).2
  acyclic : ∀ {typeName d s s' h}, c.Stocked s → c.resolve typeName = .ok d →
    services.get typeName s = (.ok h, s') → ¬c.Cyclic d.name

variable {w : Wiring} {fs : List Field} {h : Handle}

theorem stocked_runPlain (hs : c.Stocks services) (b : Action σ α) (hp : c.Stocked s) :
    c.Stocked (b.runPlain services s).2 :=
  b.runPlain_keeps services (fun _ _ hp => hp) (fun t _ hp => hs.get t hp)
    (fun h caller method args _ hp => hs.invoke h caller method args hp) hp

-- When all fields have been filled, none of them needs itself.
theorem acyclic_of_wiring (hs : c.Stocks services) (hp : c.Stocked s)
    (hw : c.wiring services fs s = (.ok w, s')) : c.Stocked s' ∧
      ∀ f ∈ fs, ∀ d, c.resolve f.fieldType = .ok d → ¬c.Cyclic d.name := by
  induction fs using List.reverseRecOn generalizing w s'
  case nil =>
    cases hw
    exact ⟨hp, nofun⟩
  case append_singleton fs f hi =>
    rw [wiring_snoc] at hw
    obtain ⟨w, t, hw', hf⟩ := Step.bind_eq_ok.mp hw
    obtain ⟨v, t', hv, hf'⟩ := Step.bind_eq_ok.mp hf
    cases hf'
    have ⟨ht, ha⟩ := hi hw'
    obtain ⟨d, h, hd, hg, rfl⟩ := providers_get_eq_ok hv
    have hp' := hs.get d.name ht
    rw [hg] at hp'
    refine ⟨hp', fun f' hf e he => ?_⟩
    cases List.mem_append.mp hf
    case inl hf => exact ha f' hf e he
    case inr hf =>
      cases List.mem_singleton.mp hf
      cases hd.symm.trans he
      exact hs.acyclic ht (Registry.resolve_name <| Registry.mem_of_resolve hd) hg

-- An instance is only made when what its component needs can be made.
theorem acyclic_of_create (hs : c.Stocks services) (hc : c.MadeBy .plain) (hp : c.Stocked s)
    (hd : d ∈ c.registry.definitions) (hg : c.create services d s = (.ok h, s')) :
    ¬c.Cyclic d.name := by
  obtain ⟨_, _, hr, _, _⟩ := create_eq_ok hc hg
  rw [Instantiator.code, runPlain_code] at hr
  obtain ⟨w, t, hw, _⟩ := Step.bind_eq_ok.mp hr
  intro hcy
  obtain ⟨_, hn, hcy'⟩ := hcy.exists_needs
  obtain ⟨f, hf, d', hr', rfl⟩ := (needs_iff hd).mp hn
  exact (acyclic_of_wiring hs hp hw).right f hf d' hr' hcy'

theorem stocked_create (hs : c.Stocks services) (hc : c.MadeBy .plain) (hp : c.Stocked s) :
    c.Stocked (c.create services d s).2 :=
  create_keeps hc (stocked_runPlain hs _ hp) fun _ => id

theorem stocked_make (hs : c.Stocks services) (hc : c.MadeBy .plain) (hp : c.Stocked s)
    (hd : d ∈ c.registry.definitions) : c.Stocked (c.make services d s).2 ∧
      ∀ {h s'}, c.make services d s = (.ok h, s') → ¬c.Cyclic d.name := by
  have hcr := stocked_create (d := d) hs hc hp
  constructor
  case right =>
    intro h s' hm
    obtain ⟨_, hg, _⟩ := make_eq_ok hm
    exact acyclic_of_create hs hc hp hd hg
  case left =>
    cases hsc : d.scope
    case prototype => exact make_of_prototype hsc ▸ hcr
    case singleton =>
      rcases hg : c.create services d s with ⟨_ | h, t⟩ <;> rw [hg] at hcr
      case error => exact make_of_error hsc hg ▸ hcr
      case ok =>
        rw [make_of_ok hsc hg]
        intro name h' hl
        by_cases he : name = d.name
        case pos => exact he ▸ acyclic_of_create hs hc hp hd hg
        case neg =>
          rw [List.lookup_cons, beq_false_of_ne he] at hl
          exact hcr name h' hl

theorem get_stocks (hs : c.Stocks services) (hc : c.MadeBy .plain) (typeName : String)
    (hp : c.Stocked s) : c.Stocked (c.get services typeName s).2 ∧
      ∀ {d h s'}, c.resolve typeName = .ok d → c.get services typeName s = (.ok h, s') →
        ¬c.Cyclic d.name := by
  cases hr : c.resolve typeName
  case error => exact ⟨get_of_unresolved hr ▸ hp, nofun⟩
  case ok d =>
    have hd := Registry.mem_of_resolve hr
    cases hn : shared? d s
    case some h =>
      refine ⟨get_of_shared hr hn ▸ hp, fun hr' _ => ?_⟩
      cases hr'
      exact hp d.name h (shared?_eq_some.mp hn).right
    case none =>
      rw [get_of_not_shared hr hn]
      cases hst : s.creating.start d.name
      case error =>
        rw [tracked_of_cycle hst]
        exact ⟨hp, nofun⟩
      case ok chain =>
        rw [tracked_of_ok hst]
        have hp' : c.Stocked { s with creating := chain } := hp
        have ⟨hm, ha⟩ := stocked_make hs hc hp' hd
        refine ⟨hm, fun hr' hg => ?_⟩
        cases hr'
        exact ha (Prod.ext (Prod.mk.inj hg).left rfl)

-- However many levels deep calls may go, the container is stocked with what can be made.
theorem stocks (hc : c.MadeBy .plain) (depth : Nat) : c.Stocks (c.services depth) := by
  induction depth
  case zero => exact ⟨fun _ _ hp => hp, fun _ _ _ _ _ hp => hp, nofun⟩
  case succ depth hi =>
    constructor
    case get =>
      intro typeName s hp
      change c.Stocked (c.getWhileAlive (c.services depth) typeName s).2
      cases hd : s.dropped
      case true  => exact getWhileAlive_of_dropped hd ▸ hp
      case false => exact getWhileAlive_of_alive hd ▸ (get_stocks hi hc typeName hp).left
    case invoke =>
      intro h caller method args s hp
      change c.Stocked (c.invoke (c.services depth) h caller method args s).2
      rw [c.invoke_eq_code _ .plain hc]
      exact stocked_runPlain hi _ hp
    case acyclic =>
      intro typeName d s s' h hp hr hg
      change c.getWhileAlive (c.services depth) typeName s = _ at hg
      cases hd : s.dropped
      case true  => cases hg.symm.trans (getWhileAlive_of_dropped hd)
      case false => exact (get_stocks hi hc typeName hp).right hr (getWhileAlive_of_alive hd ▸ hg)

end Stock
end Container
end Interpose
