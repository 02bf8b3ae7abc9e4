import Interpose.Proofs.Metadata.Modifiers
import Interpose.Proofs.Weaving.Coverage
import Interpose.Proofs.Weaving.FieldNesting
import Interpose.Proofs.Weaving.Synthesis

namespace Interpose

open Outcome

variable {σ : Type} {l : Layer σ} {providers : Providers σ} {r : Registry σ} {d : Definition σ}
variable {t : Proxies σ} {p : Proxy σ} {f : Field} {services : Services σ} {s s' : Session σ}

section Fields

variable {value value' : Field → Act σ Value} {fs : List Field} {w w' : Wiring} {name : String}

-- Fills fields in order, each with what is given for it.
def wireEach (value : Field → Act σ Value) (fs : List Field) (w : Wiring) : Act σ Wiring :=
  fs.foldlM (fun w f => do return w.insert f.name (← value f)) w

theorem wireEach_cons : wireEach value (f :: fs) w =
    value f >>= fun v => wireEach value fs (w.insert f.name v) := by
  rw [wireEach, List.foldlM_cons, bind_assoc]
  exact bind_congr fun _ => pure_bind ..

theorem wireEach_congr (h : ∀ f ∈ fs, value f = value' f) :
    wireEach value fs w = wireEach value' fs w := by
  induction fs generalizing w
  case nil => rfl
  case cons f fs hi =>
    have ⟨hf, hfs⟩ := List.forall_mem_cons.mp h
    rw [wireEach_cons, wireEach_cons, hf]
    exact bind_congr fun _ => hi hfs

namespace Wiring

theorem get?_insert_self (w : Wiring) (name : String) (v : Value) :
    (w.insert name v).get? name = some v := by
  have hn : (w.fields.filter (·.1 != name)).lookup name = none :=
    List.lookup_eq_none_iff.mpr fun e he => bne_iff_ne.mpr fun hk =>
      bne_iff_ne.mp (List.mem_filter.mp he).right hk.symm
  rw [get?, insert, List.lookup_append, hn, Option.none_or, List.lookup_cons_self]

theorem get?_insert_of_ne (w : Wiring) (v : Value) {field : String} (hn : name ≠ field) :
    (w.insert field v).get? name = w.get? name := by
  have hl : ∀ es : List (String × Value),
      (es.filter (·.1 != field) ++ [(field, v)]).lookup name = es.lookup name := by
    intro es
    induction es
    case nil => rw [List.filter_nil, List.nil_append, List.lookup_cons, beq_false_of_ne hn]
    case cons e es hi =>
      by_cases he : e.1 = field
      case pos =>
        have hne : name ≠ e.1 := he ▸ hn
        rw [List.filter_cons_of_neg (by simpa using he), hi, List.lookup_cons, beq_false_of_ne hne]
      case neg =>
        rw [List.filter_cons_of_pos (by simpa using he), List.cons_append, List.lookup_cons, hi,
          List.lookup_cons]
  exact hl w.fields

end Wiring

-- Each field that has been filled has a value that was made for it, and nothing else has changed.
theorem wireEach_eq_ok (hn : (fs.map (·.name)).Nodup) (h : wireEach value fs w s = (.ok w', s')) :
    (∀ f ∈ fs, ∃ v t t', value f t = (.ok v, t') ∧ w'.get? f.name = some v) ∧
      ∀ name, name ∉ fs.map (·.name) → w'.get? name = w.get? name := by
  induction fs generalizing w s
  case nil =>
    have ⟨he, _⟩ := Step.pure_eq_ok.mp h
    exact ⟨nofun, fun _ _ => he ▸ rfl⟩
  case cons f fs hi =>
    rw [wireEach_cons] at h
    have ⟨v, t, hv, h⟩ := Step.bind_eq_ok.mp h
    have ⟨hf, hn⟩ := List.nodup_cons.mp hn
    have ⟨hfilled, hkept⟩ := hi hn h
    constructor
    case left =>
      refine List.forall_mem_cons.mpr ⟨⟨v, s, t, hv, ?_⟩, hfilled⟩
      rw [hkept f.name hf, w.get?_insert_self]
    case right =>
      intro name hname
      have ⟨hne, hname⟩ := not_or.mp (mt List.mem_cons.mpr hname)
      rw [hkept name hname, w.get?_insert_of_ne v hne]

end Fields

namespace Definition

-- Fills the fields of a component, each with what is given for it.
def wireBy (d : Definition σ) (value : Field → Act σ Value) : Act σ Wiring :=
  wireEach value d.type.injectedFields .empty

-- Runs the initialization of an instance, if there is one.
def prepare (services : Services σ) (d : Definition σ) (target : Value) : Act σ Unit :=
  match d.initializer with
  | some init => (init target).runPlain services
  | none => pure ()

-- Makes an instance of its wiring.
def assemble (services : Services σ) (d : Definition σ) (w : Wiring) : Act σ Handle := do
  let target ← (d.allocator w).runPlain services
  d.prepare services target
  Act.newHandle d.name target .direct

theorem wire_eq : d.wire services providers =
    d.wireBy fun f => providers.get services f.fieldType :=
  rfl

theorem instantiate_eq : d.instantiate services providers =
    d.wire services providers >>= d.assemble services := by
  refine bind_congr fun w => bind_congr fun target => ?_
  rw [prepare]
  cases d.initializer <;> rfl

-- What is wired are the fields that are neither static nor final.
theorem wireBy_eq_ok {value : Field → Act σ Value} {w : Wiring} (hd : d.Regular)
    (h : d.wireBy value s = (.ok w, s')) (hf : f ∈ d.type.fields) :
    ((w.get? f.name).isSome ↔
      f.modifiers.has .static = false ∧ f.modifiers.has .final = false) ∧
    ∀ v, w.get? f.name = some v → ∃ t t', value f t = (.ok v, t') := by
  have hs : (d.type.injectedFields.map (·.name)).Nodup :=
    hd.fields.sublist (List.filter_sublist.map _)
  have ⟨hfilled, hkept⟩ := wireEach_eq_ok hs h
  cases hif : f.isInjected
  case true =>
    have ⟨v, t, t', hv, hg⟩ := hfilled f (List.mem_filter.mpr ⟨hf, hif⟩)
    rw [hg]
    refine ⟨iff_of_true rfl (Field.isInjected_iff.mp hif), fun v' hv' => ?_⟩
    cases hv'
    exact ⟨t, t', hv⟩
  case false =>
    have hm : f.name ∉ d.type.injectedFields.map (·.name) := by
      intro hm
      have ⟨f', hf', he⟩ := List.mem_map.mp hm
      have ⟨hmem, hif'⟩ := List.mem_filter.mp hf'
      have hff : f' = f := List.inj_on_of_nodup_map hd.fields hmem hf he
      exact Bool.false_ne_true (hif.symm.trans (hff ▸ hif'))
    rw [hkept f.name hm]
    refine ⟨iff_of_false Bool.false_ne_true ?_, nofun⟩
    exact fun hc => Bool.false_ne_true (hif.symm.trans (Field.isInjected_iff.mpr hc))

end Definition

namespace Proxy

-- Makes an instance of its wiring.
def assemble (services : Services σ) (p : Proxy σ) (w : Wiring) : Act σ Handle := do
  let target ← p.allocate services w
  p.prepare services target
  Act.newHandle p.name target .woven

theorem instantiate_eq : p.instantiate services providers =
    p.wire services providers >>= p.assemble services :=
  rfl

end Proxy

-- No provider is missing but the one that is looked up.
def Providers.Exact (providers : Providers σ) : Prop :=
  ∀ typeName name, providers typeName = .error (.componentNotFound name) → name = typeName

-- The provider that was looked up while types were woven is the one that is found later, and if
-- there was none, that is what is said later.
theorem Proxy.lookUp_eq {j : FieldJoint} {provider : Option (Provider σ)} (he : providers.Exact)
    (h : fieldProvider providers j.field.fieldType = .ok provider) :
    AutowireChain.lookUp services j provider = providers.get services j.field.fieldType := by
  rw [fieldProvider] at h
  rw [Providers.get]
  cases hp : providers j.field.fieldType <;> simp only [hp] at h
  case ok q =>
    cases h
    rfl
  case error e =>
    split at h
    case h_1 hq => cases hq
    case h_2 name hq =>
      cases h
      cases hq
      rw [he _ _ hp]
      rfl
    case h_3 => cases h

namespace Proxy.Synthesized

-- A proxy fills a field with the nesting of its advices.
theorem fieldValue_eq (h : Synthesized l providers d p) (hd : d.Regular) (he : providers.Exact)
    (hf : f ∈ d.type.fields) : p.fieldValue services providers f =
      nestField services ⟨d.type, f⟩ (providers.get services f.fieldType)
        (l.advisorsAtField ⟨d.type, f⟩) := by
  have ⟨c, hc⟩ := h.injects ⟨d.type, f⟩ (List.mem_map_of_mem hf)
  cases ho : l.onField ⟨d.type, f⟩
  case some advisors =>
    have ⟨provider, hp, hs⟩ := injectionChain_of_some ho hc
    rw [fieldValue, h.injectionChain? hd hf, wireChain?, hc, hs, Layer.advisorsAtField, ho,
      ← lookUp_eq (j := ⟨d.type, f⟩) he hp]
    exact AutowireChain.through_eq_nest ..
  case none =>
    rw [fieldValue, h.injectionChain? hd hf, wireChain?, injectionChain_of_none ho,
      Layer.advisorsAtField, ho]
    rfl

end Proxy.Synthesized

namespace Proxies

-- Fills the fields of a component, by its proxy if it has one.
def wire (services : Services σ) (providers : Providers σ) (t : Proxies σ) (d : Definition σ) :
    Act σ Wiring :=
  match t.get? d.name with
  | some p => p.wire services providers
  | none => d.wire services providers

-- Makes an instance of its wiring.
def assemble (services : Services σ) (t : Proxies σ) (d : Definition σ) : Wiring → Act σ Handle :=
  match t.get? d.name with
  | some p => p.assemble services
  | none => d.assemble services

theorem instantiate_eq (t : Proxies σ) (d : Definition σ) : t.instantiate services providers d =
    t.wire services providers d >>= t.assemble services d := by
  rw [instantiate, wire, assemble]
  cases t.get? d.name
  case none => exact d.instantiate_eq
  case some => exact Proxy.instantiate_eq

-- Whether there is a proxy or none, a field is filled with the nesting of its advices.
theorem wire_eq_nest {advices : List (Advice σ)} {config : WeavingConfig} (hr : r.Regular)
    (hw : Layer.weave r.hierarchy advices config = .ok l) (ht : ofLayer l r providers = .ok t)
    (he : providers.Exact) (hd : d ∈ r.definitions) :
    t.wire services providers d = d.wireBy fun f =>
      nestField services ⟨d.type, f⟩ (providers.get services f.fieldType)
        (l.advisorsAtField ⟨d.type, f⟩) := by
  rw [wire]
  cases hp : l.hasProxy d.name
  case true =>
    have ⟨p, hg, ho⟩ := get?_of_hasProxy ht hd hp
    have hs := Proxy.synthesized ho (Layer.get?_of_weave hw hd)
    have hv : ∀ f ∈ d.type.injectedFields, p.fieldValue services providers f = _ :=
      fun f hf => hs.fieldValue_eq (hr d hd) he (List.mem_of_mem_filter hf)
    simp only [hg]
    rw [Proxy.wire, hs.definition]
    exact wireEach_congr hv
  case false =>
    have hn := (Layer.tells_of_weave hw).of_not_hasProxy d.type hp
    simp only [get?_of_not_hasProxy ht hp, Definition.wire_eq, Layer.advisorsAtField, hn.right]
    rfl

end Proxies
end Interpose
