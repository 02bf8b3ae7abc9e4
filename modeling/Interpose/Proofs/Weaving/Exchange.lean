import Interpose.Proofs.Weaving.Hooks
import Interpose.Proofs.Weaving.Kinds
import Interpose.Proofs.Weaving.Phases

namespace Interpose

open Outcome

variable {σ : Type} {services : Services σ} {providers : Providers σ} {types : Hierarchy}

def JoinPoint.domain : JoinPoint → Pointcut.Domain
  | execution _ _ => .execution
  | autowire _ => .autowire

-- The advices come from the same place and do the same at the join points of a domain.
structure Advice.AlikeIn (domain : Pointcut.Domain) (a a' : Advice σ) : Prop where
  pointcut : a.pointcut = a'.pointcut
  provider : a.provider = a'.provider
  body     : ∀ this jp, jp.domain = domain → a.body this jp = a'.body this jp

section Chains

variable {as as' : List (Advice σ)} {a a' : Advice σ} {τ : Type}

theorem Advice.AlikeIn.advise {jp : JoinPoint} (h : a.AlikeIn jp.domain a')
    (reply : (r : jp.requests.Request) → τ → Act σ (jp.requests.Reply r × τ)) (m : τ) :
    a.advise services jp reply m = a'.advise services jp reply m := by
  rw [Advice.advise, Advice.advise, h.provider]
  simp only [h.body _ jp rfl]

-- Chains only run the advices at join points of their own domain.
theorem MethodChain.through_congr (h : List.Forall₂ (Advice.AlikeIn .execution) as as')
    (j : MethodJoint) (intercepted : Intercepted σ) (i : Call) :
    through services types j intercepted as i = through services types j intercepted as' i := by
  induction h generalizing i
  case nil => rfl
  case cons a a' _ _ ha _ hi =>
    have ht : a.takesPart types i.caller j = a'.takesPart types i.caller j := by
      rw [Advice.takesPart, Advice.takesPart, ha.pointcut]
    have ha : a.AlikeIn (JoinPoint.execution j i).domain a' := ha
    rw [through, through, ht]
    simp only [hi, ha.advise]

theorem AutowireChain.through_congr (h : List.Forall₂ (Advice.AlikeIn .autowire) as as')
    (j : FieldJoint) (provider : Option (Provider σ)) :
    through services j provider as = through services j provider as' := by
  induction h
  case nil => rfl
  case cons a a' _ _ ha _ hi =>
    have ha : a.AlikeIn (JoinPoint.autowire j).domain a' := ha
    rw [through, through, hi]
    exact ha.advise _ _

end Chains

-- What chains and passages do, whoever needs it.
def MethodChain.effect (c : MethodChain σ) : Services σ → Call → Act σ Value :=
  (c.invoke ·)

def AutowireChain.effect (c : AutowireChain σ) : Services σ → Act σ Value :=
  (c.resolve ·)

def Passage.effect (q : Passage σ) :
    Services σ → Option String → Value → List Value → Act σ Value :=
  (Passage.call · · · · q)

namespace Proxy

-- No difference between the proxies comes to light.
structure Alike (p p' : Proxy σ) : Prop where
  definition : p.definition = p'.definition
  passages   : ∀ method,
    (p.passages.lookup method).map (·.effect) = (p'.passages.lookup method).map (·.effect)
  newChain   : p.newChain.map (·.effect) = p'.newChain.map (·.effect)
  initChain  : p.initChain.map (·.effect) = p'.initChain.map (·.effect)
  fields     : ∀ field,
    (p.injectionChain? field).map (·.effect) = (p'.injectionChain? field).map (·.effect)

section Effects

variable (p p' : Proxy σ)

theorem dispatch_effect (caller : Option String) (target : Value) (method : String)
    (args : List Value) : p.dispatch services caller target method args =
      match (p.passages.lookup method).map (·.effect) with
      | some effect => effect services caller target args
      | none => Act.raise (.methodNotFound p.definition.name method) := by
  cases h : p.passages.lookup method
  case none   => rw [dispatch, h]; rfl
  case some q => exact dispatch_eq_call h ..

theorem fieldValue_effect (f : Field) : p.fieldValue services providers f =
    match (p.injectionChain? f.name).map (·.effect) with
    | some effect => effect services
    | none => providers.get services f.fieldType := by
  rw [fieldValue]
  cases p.injectionChain? f.name <;> rfl

theorem allocate_effect (w : Wiring) : p.allocate services w =
    match p.newChain.map (·.effect) with
    | some effect => effect services ⟨none, none, [w.toValue]⟩
    | none => (p.definition.allocator w).runPlain services := by
  rw [allocate]
  cases p.newChain <;> rfl

theorem prepare_effect (target : Value) : p.prepare services target =
    match p.initChain.map (·.effect), p.definition.initializer with
    | some effect, _ => do discard (effect services ⟨none, some target, []⟩)
    | none, some init => (init target).runPlain services
    | none, none => pure () := by
  rw [prepare]
  cases p.initChain <;> cases p.definition.initializer <;> rfl

end Effects

namespace Alike

variable {p p' : Proxy σ}

theorem dispatch (h : p.Alike p') (caller : Option String) (target : Value) (method : String)
    (args : List Value) :
    p.dispatch services caller target method args =
      p'.dispatch services caller target method args := by
  rw [dispatch_effect, dispatch_effect, h.passages, h.definition]

theorem instantiate (h : p.Alike p') :
    p.instantiate services providers = p'.instantiate services providers := by
  have hw : p.wire services providers = p'.wire services providers := by
    simp only [wire, fieldValue_effect, h.fields, h.definition]
  have ha : ∀ w, p.allocate services w = p'.allocate services w := by
    intro w
    rw [allocate_effect, allocate_effect, h.newChain, h.definition]
  have hp : ∀ target, p.prepare services target = p'.prepare services target := by
    intro target
    rw [prepare_effect, prepare_effect, h.initChain, h.definition]
  rw [Proxy.instantiate, Proxy.instantiate, hw, name, name, h.definition]
  simp only [ha, hp]

end Alike
end Proxy

-- The layers have the same at each join point, apart from code that does not belong there.
structure Layer.Alike (l l' : Layer σ) : Prop where
  types   : l.types = l'.types
  proxies : l.proxies = l'.proxies
  methods : ∀ j, Option.Rel (fun s s' => List.Forall₂ (Advice.AlikeIn .execution) s.advisors
    s'.advisors) (l.onMethod j) (l'.onMethod j)
  fields  : ∀ j, Option.Rel (fun s s' => List.Forall₂ (Advice.AlikeIn .autowire) s.advisors
    s'.advisors) (l.onField j) (l'.onField j)

namespace Layer.Alike

variable {l l' : Layer σ} {d : Definition σ} {p p' : Proxy σ}

theorem passage? (h : l.Alike l') (d : Definition σ) (j : MethodJoint) :
    (Proxy.passage? l d j).map (fun e => (e.1, e.2.effect)) =
      (Proxy.passage? l' d j).map (fun e => (e.1, e.2.effect)) := by
  have hr := h.methods j
  simp only [Proxy.passage?, h.types]
  generalize l.onMethod j = o, l'.onMethod j = o' at hr ⊢
  cases hr
  case none => rfl
  case some hs =>
    cases j.method.kind <;> cases d.body? j.name
    case method.some =>
      refine congrArg (fun effect => some (j.name, effect)) ?_
      funext services caller target args
      exact MethodChain.through_congr hs ..
    all_goals rfl

theorem onMethod_effect (h : l.Alike l') (j : MethodJoint) (intercepted : Intercepted σ) :
    (l.onMethod j).map (fun s => MethodChain.effect ⟨j, l.types, intercepted, s⟩) =
      (l'.onMethod j).map fun s => MethodChain.effect ⟨j, l'.types, intercepted, s⟩ := by
  have hr := h.methods j
  rw [h.types]
  generalize l.onMethod j = o, l'.onMethod j = o' at hr ⊢
  cases hr
  case none => rfl
  case some hs =>
    refine congrArg some ?_
    funext services i
    exact MethodChain.through_congr hs ..

theorem newChain? (h : l.Alike l') (d : Definition σ) (j : MethodJoint) :
    (Proxy.newChain? l d j).map (·.effect) = (Proxy.newChain? l' d j).map (·.effect) := by
  have hc := h.onMethod_effect j (.allocation d.allocator)
  simp only [Option.map_eq_bind, Function.comp_def] at hc
  cases hk : j.method.kind
  case allocation => simpa [Proxy.newChain?, hk] using hc
  all_goals simp [Proxy.newChain?, hk]

theorem initChain? (h : l.Alike l') (d : Definition σ) (j : MethodJoint) :
    (Proxy.initChain? l d j).map (·.effect) = (Proxy.initChain? l' d j).map (·.effect) := by
  have hc := fun init => h.onMethod_effect j (.initialization init)
  simp only [Option.map_eq_bind, Function.comp_def] at hc
  cases hk : j.method.kind <;> cases hi : d.initializer
  case initialization.some init => simpa [Proxy.initChain?, hk, hi] using hc init
  all_goals simp [Proxy.initChain?, hk, hi]

theorem wireChain? (h : l.Alike l') (providers : Providers σ) (j : FieldJoint) :
    (Proxy.wireChain? l providers j).map (fun e => (e.1, e.2.effect)) =
      (Proxy.wireChain? l' providers j).map (fun e => (e.1, e.2.effect)) := by
  have hr := h.fields j
  simp only [Proxy.wireChain?, Proxy.injectionChain]
  generalize l.onField j = o, l'.onField j = o' at hr ⊢
  cases hr
  case none => rfl
  case some hs =>
    cases Proxy.fieldProvider providers j.field.fieldType
    case error => rfl
    case ok provider =>
      refine congrArg (fun effect => some (j.name, effect)) ?_
      funext services
      exact AutowireChain.through_congr hs ..

theorem synthesized (h : l.Alike l') (hp : Proxy.Synthesized l providers d p)
    (hp' : Proxy.Synthesized l' providers d p') : p.Alike p' where
  definition := hp.definition.trans hp'.definition.symm
  passages method := by
    rw [← Keyed.lookup_map_snd fun _ q => Passage.effect q,
      ← Keyed.lookup_map_snd fun _ q => Passage.effect q, hp.passages, hp'.passages,
      List.map_filterMap, List.map_filterMap]
    simp only [h.passage?]
  newChain := by
    rw [hp.newChain, hp'.newChain, ← List.getLast?_map, ← List.getLast?_map, List.map_filterMap,
      List.map_filterMap]
    simp only [h.newChain?]
  initChain := by
    rw [hp.initChain, hp'.initChain, ← List.getLast?_map, ← List.getLast?_map, List.map_filterMap,
      List.map_filterMap]
    simp only [h.initChain?]
  fields field := by
    rw [Proxy.injectionChain?, Proxy.injectionChain?,
      ← Keyed.lookup_map_snd fun _ c => AutowireChain.effect c,
      ← Keyed.lookup_map_snd fun _ c => AutowireChain.effect c, hp.wireChains, hp'.wireChains,
      List.map_filterMap, List.map_filterMap]
    simp only [h.wireChain?]

theorem get? {r : Registry σ} {t t' : Proxies σ} (h : l.Alike l')
    (hd : ∀ d ∈ r.definitions, l.types.get? d.name = some d.type)
    (ht : Proxies.ofLayer l r providers = .ok t) (ht' : Proxies.ofLayer l' r providers = .ok t')
    (name : String) : Option.Rel Proxy.Alike (t.get? name) (t'.get? name) := by
  have hr := Proxies.rel_get? ht name
  have hr' := Proxies.rel_get? ht' name
  have hf : (r.definitions.filter fun d => l'.hasProxy d.name) =
      r.definitions.filter fun d => l.hasProxy d.name := by
    simp only [hasProxy, h.proxies]
  rw [hf] at hr'
  cases hm : (r.definitions.filter fun d => l.hasProxy d.name).find? (·.name == name) <;>
    rw [hm] at hr hr' <;> generalize t.get? name = o, t'.get? name = o' at hr hr' ⊢ <;>
    cases hr <;> cases hr'
  case none.none.none => exact .none
  case some.some.some d _ hp _ hp' =>
    have hd := hd d (List.mem_of_mem_filter (List.mem_of_find?_eq_some hm))
    exact .some (h.synthesized (Proxy.synthesized hp hd) (Proxy.synthesized hp' (h.types ▸ hd)))

end Layer.Alike

def Hook.effect (h : Hook σ) : Services σ → List Value → Act σ Value :=
  (Hook.invoke · · h)

theorem Hook.field_effect {fieldType : String} {chain chain' : Option (AutowireChain σ)}
    (h : chain.map (·.effect) = chain'.map (·.effect)) :
    (field fieldType chain).effect = (field fieldType chain').effect := by
  cases chain <;> cases chain' <;> simp only [Option.map, reduceCtorEq] at h
  case none.none => rfl
  case some.some =>
    funext services args
    exact congrFun (Option.some.inj h) services

namespace Proxies

variable {t t' : Proxies σ} (h : ∀ name, Option.Rel Proxy.Alike (t.get? name) (t'.get? name))
include h

-- Whatever is asked of them, the proxies give the same.
theorem construction_congr : t.construction = t'.construction := by
  have hi : t.instantiate = t'.instantiate := by
    funext services providers d
    have hr := h d.name
    rw [instantiate, instantiate]
    generalize t.get? d.name = o, t'.get? d.name = o' at hr ⊢
    cases hr
    case none    => rfl
    case some hp => exact hp.instantiate
  have hd : t.construction.dispatch = t'.construction.dispatch := by
    funext services handle caller method args
    have hr := h handle.typeName
    simp only [construction]
    generalize t.get? handle.typeName = o, t'.get? handle.typeName = o' at hr ⊢
    cases hr
    case none    => rfl
    case some hp => exact hp.dispatch ..
  calc t.construction
    _ = ⟨t.instantiate, t.construction.dispatch⟩ := rfl
    _ = ⟨t'.instantiate, t'.construction.dispatch⟩ := by rw [hi, hd]
    _ = t'.construction := rfl

theorem ofPointcut_congr {l l' : Layer σ} (hl : l.types = l'.types) (p : Pointcut) :
    (Hook.ofPointcut l t p).map (fun e => (e.1, e.2.effect)) =
      (Hook.ofPointcut l' t' p).map fun e => (e.1, e.2.effect) := by
  have hf : ∀ name fieldType field,
      (Hook.field fieldType ((t.get? name).bind (·.injectionChain? field))).effect =
        (Hook.field fieldType ((t'.get? name).bind (·.injectionChain? field))).effect := by
    intro name fieldType field
    refine Hook.field_effect ?_
    have hr := h name
    generalize t.get? name = o, t'.get? name = o' at hr ⊢
    cases hr
    case none    => rfl
    case some hp => exact hp.fields field
  simp only [Hook.ofPointcut, hl, List.map_flatMap, List.map_append, List.map_map,
    Function.comp_def, hf]

theorem ofTemplate_congr {l l' : Layer σ} (hl : l.types = l'.types) (template : String)
    (args : List String) :
    (Hook.ofTemplate l t template args).map (·.map fun e => (e.1, e.2.effect)) =
      (Hook.ofTemplate l' t' template args).map (·.map fun e => (e.1, e.2.effect)) := by
  simp only [Hook.ofTemplate, bind, Except.bind]
  cases Template.fill template args
  case error => rfl
  case ok expression =>
    simp only
    cases (Pointcut.parse expression).mapError WeavingError.pointcut
    case error => rfl
    case ok p  => exact congrArg Except.ok (ofPointcut_congr h hl p)

end Proxies

-- No client can tell the containers apart.
structure WovenContainer.Alike (w w' : WovenContainer σ) : Prop where
  container : w.container = w'.container
  hooks     : ∀ template args, (w.hooks template args).map (·.map fun e => (e.1, e.2.effect)) =
    (w'.hooks template args).map (·.map fun e => (e.1, e.2.effect))

-- Other code for the advices, made from theirs.
abbrev Exchange (σ : Type) := String → String → AdviceBody σ → AdviceBody σ

-- The code is only another at join points that the parameters of the advices are not for.
def Exchange.Misplaced (g : Exchange σ) (types : Hierarchy) : Prop :=
  ∀ e ∈ Classification.declarations types, ∀ body this jp,
    e.2.params ≠ [jp.domain.other.joinPointTypeName] →
      g e.1.name e.2.name body this jp = body this jp

namespace Catalog

variable {τ : Type} (g : Exchange σ) (c : Catalog σ)

def exchanged : Catalog σ where
  aspects := c.aspects.map fun e => (e.1, e.2.map fun e' => (e'.1, g e.1 e'.1 e'.2))

theorem body?_exchanged (aspect method : String) : (c.exchanged g).body? aspect method =
    (c.body? aspect method).map (g aspect method) := by
  have ha := Keyed.lookup_map_snd (fun aspect (bodies : List (String × AdviceBody σ)) =>
    bodies.map fun e => (e.1, g aspect e.1 e.2)) c.aspects aspect
  rw [body?, body?, exchanged, ha]
  cases c.aspects.lookup aspect
  case none        => rfl
  case some bodies => exact Keyed.lookup_map_snd (g aspect) bodies method

theorem recoded_exchanged (f : Recoding τ) : (c.exchanged g).recoded f = c.recoded f := by
  simp only [recoded, exchanged, List.map_map, Function.comp_def]

end Catalog

namespace Advice.DeclaredBy

variable {τ : Type} {f : Recoding τ} {g : Exchange σ} {catalog : Catalog σ}
variable {t t' : TypeDescription} {m m' : Method} {a a' : Advice σ} {domain : Pointcut.Domain}

-- An advice and what the exchange makes of it are alike where the pointcut leads to.
theorem alikeIn (h : a.DeclaredBy catalog providers t m)
    (h' : a'.DeclaredBy (catalog.exchanged g) providers t' m')
    (hr : a.recoded f = a'.recoded f) (hb : a.pointcut.belongsTo domain = true)
    (hg : ∀ body this jp, m.params ≠ [jp.domain.other.joinPointTypeName] →
      g t.name m.name body this jp = body this jp) : a.AlikeIn domain a' := by
  have ht : t.name = t'.name :=
    h.aspect.symm.trans <| (congrArg Advice.aspect hr).trans h'.aspect
  have hm : m.name = m'.name :=
    h.method.symm.trans <| (congrArg Advice.method hr).trans h'.method
  have hp : (a.recoded f).pointcut = (a'.recoded f).pointcut := congrArg Advice.pointcut hr
  constructor
  case pointcut => exact hp
  case provider => exact Except.ok.inj <| h.provider.symm.trans <| ht ▸ h'.provider
  case body =>
    intro this jp hj
    have hn : m.params ≠ [jp.domain.other.joinPointTypeName] := by
      intro hs
      have ho := h.only hs
      rw [hj] at ho
      cases domain <;> cases ho.right.symm.trans hb
    have he := h'.body
    rw [← ht, ← hm, Catalog.body?_exchanged, h.body] at he
    rw [← Option.some.inj he, hg a.body this jp hn]

end Advice.DeclaredBy

-- Code that does nothing.
def Recoding.blank : Recoding Unit where
  allocation _ _ := .result .unit
  initialization _ _ := .result ()
  method _ _ _ _ := .result .unit
  advice _ _ _ _ := .result .unit

theorem Advisors.rel_of_recoded {τ : Type} {f : Recoding τ} {R : Advice σ → Advice σ → Prop}
    {o o' : Option (Advisors σ)} (ho : o.map (recoded f) = o'.map (recoded f))
    (hR : ∀ a ∈ (o.map (·.advisors)).getD [], ∀ a' ∈ (o'.map (·.advisors)).getD [],
      a.recoded f = a'.recoded f → R a a') :
    Option.Rel (fun s s' => List.Forall₂ R s.advisors s'.advisors) o o' := by
  cases o <;> cases o' <;> simp only [Option.map, reduceCtorEq] at ho
  case none.none => exact .none
  case some.some s s' =>
    have hs : s.advisors.map (Advice.recoded f) = s'.advisors.map (Advice.recoded f) :=
      congrArg (·.advisors) (Option.some.inj ho)
    exact .some (Keyed.forall₂_of_map_eq hs hR)

namespace Blueprint

variable {τ : Type} {g : Exchange σ} {b : Blueprint σ} {outside : String → Definition σ}
variable {w w' : WovenContainer σ}

def exchanged (b : Blueprint σ) (g : Exchange σ) : Blueprint σ :=
  { b with catalog := b.catalog.exchanged g }

theorem recoded_exchanged (f : Recoding τ) : (b.exchanged g).recoded f = b.recoded f := by
  rw [recoded, recoded, exchanged, Catalog.recoded_exchanged]

-- Weaving does not look at the code.
theorem exists_weave_exchanged (h : b.weave outside = .ok w) (g : Exchange σ) (f : Recoding τ)
    (outside' : String → Definition τ) : ∃ w', (b.exchanged g).weave outside = .ok w' ∧
      w.recoded f outside' = w'.recoded f outside' := by
  have hr := weave_recoded f (b.exchanged g) outside outside'
  rw [recoded_exchanged, weave_recoded f b outside outside', h] at hr
  cases hw : (b.exchanged g).weave outside <;> rw [hw] at hr
  case error => cases hr
  case ok w' => exact ⟨w', rfl, Except.ok.inj hr⟩

section Alike

variable {advices advices' : List (Advice σ)} {layer layer' : Layer σ}

theorem Weaves.alikeIn {f : Recoding τ} {a a' : Advice σ} {domain : Pointcut.Domain}
    (hw : b.Weaves outside advices layer w)
    (hw' : (b.exchanged g).Weaves outside advices' layer' w')
    (hg : g.Misplaced b.registry.hierarchy) (ha : layer.AttachedIn a domain)
    (ha' : layer'.AttachedIn a' domain) (hr : a.recoded f = a'.recoded f) :
    a.AlikeIn domain a' := by
  have ⟨hm, hb⟩ := Layer.belongsTo_of_attachedIn hw.layered ha
  have ⟨hm', _⟩ := Layer.belongsTo_of_attachedIn hw'.layered ha'
  have ⟨e, he, hd⟩ := exists_declared hw.classified hm
  have ⟨_, _, hd'⟩ := exists_declared hw'.classified hm'
  exact hd.alikeIn hd' hr hb (hg e he)

-- The layers only differ in code that is never run.
theorem Weaves.alike {f : Recoding τ} (hw : b.Weaves outside advices layer w)
    (hw' : (b.exchanged g).Weaves outside advices' layer' w')
    (hg : g.Misplaced b.registry.hierarchy) (hl : layer.recoded f = layer'.recoded f) :
    layer.Alike layer' where
  types := show (layer.recoded f).types = (layer'.recoded f).types from congrArg _ hl
  proxies := show (layer.recoded f).proxies = (layer'.recoded f).proxies from congrArg _ hl
  methods j := by
    have ho := congrArg (·.onMethod j) hl
    have ha : ∀ a ∈ layer.advisorsAt j, ∀ a' ∈ layer'.advisorsAt j,
        a.recoded f = a'.recoded f → a.AlikeIn .execution a' :=
      fun a ha a' ha' => hw.alikeIn hw' hg ⟨j, ha⟩ ⟨j, ha'⟩
    simp only [Layer.onMethod_recoded, Layer.advisorsAt] at ho ha
    exact Advisors.rel_of_recoded ho ha
  fields j := by
    have ho := congrArg (·.onField j) hl
    have ha : ∀ a ∈ layer.advisorsAtField j, ∀ a' ∈ layer'.advisorsAtField j,
        a.recoded f = a'.recoded f → a.AlikeIn .autowire a' :=
      fun a ha a' ha' => hw.alikeIn hw' hg ⟨j, ha⟩ ⟨j, ha'⟩
    simp only [Layer.onField_recoded, Layer.advisorsAtField] at ho ha
    exact Advisors.rel_of_recoded ho ha

theorem Weaves.get? {f : Recoding τ} (hw : b.Weaves outside advices layer w)
    (hw' : (b.exchanged g).Weaves outside advices' layer' w')
    (hg : g.Misplaced b.registry.hierarchy) (hl : layer.recoded f = layer'.recoded f)
    (name : String) : Option.Rel Proxy.Alike (w.table.get? name) (w'.table.get? name) :=
  (hw.alike hw' hg hl).get? (fun _ => Layer.get?_of_weave hw.layered) hw.proxied hw'.proxied name

theorem Weaves.alike_container {f : Recoding τ} (hw : b.Weaves outside advices w.layer w)
    (hw' : (b.exchanged g).Weaves outside advices' w'.layer w')
    (hg : g.Misplaced b.registry.hierarchy) (hl : w.layer.recoded f = w'.layer.recoded f) :
    w.Alike w' where
  container := by
    rw [hw.container, hw'.container, Proxies.construction_congr (hw.get? hw' hg hl)]
    rfl
  hooks := Proxies.ofTemplate_congr (hw.get? hw' hg hl) (hw.alike hw' hg hl).types

end Alike

-- Building goes the same way if what is woven makes instances the same way.
theorem build_congr {b' : Blueprint σ} (h : b.weave outside = .ok w)
    (h' : b'.weave outside = .ok w') (hc : w'.container = w.container) (depth : Nat)
    (s : Session σ) : (b'.build outside depth s).2 = (b.build outside depth s).2 ∧
      (b'.build outside depth s).1.map (·.map (·.container)) =
        (b.build outside depth s).1.map (·.map (·.container)) := by
  rw [build_of_ok h, build_of_ok h', hc]
  rcases w.container.makeEager (w.container.services depth) s with ⟨_ | _, t⟩
  case ok         => exact ⟨rfl, rfl⟩
  case error halt => cases halt <;> exact ⟨rfl, rfl⟩

-- The kinds of join points are kept apart. All advices are declared, and one that is declared for
-- the join points of one domain has expressions of this domain only and is at no join point of the
-- other. Nor does it ever receive one: with any other code for them nothing changes, from the first
-- singleton on.
theorem weave_separates_kinds {advices : List (Advice σ)} {layer : Layer σ}
    (h : b.advices (b.unfinished outside) = .ok advices)
    (hl : Layer.weave b.registry.hierarchy advices b.config = .ok layer) :
    (∀ a, layer.Attached a → ∃ e ∈ Classification.declarations b.registry.hierarchy,
      a.DeclaredBy b.catalog (b.unfinished outside).providers e.1 e.2) ∧
    (∀ a t m domain, a.DeclaredBy b.catalog (b.unfinished outside).providers t m →
      m.params = [domain.joinPointTypeName] →
        (∀ note ∈ m.annotationsNamed aroundAnnotation, ∀ p, note.Gives p → p.Only domain) ∧
        a.pointcut.Only domain ∧ ¬layer.AttachedIn a domain.other) ∧
    ∀ w, b.weave outside = .ok w → w.layer = layer ∧
      ∀ g : Exchange σ, g.Misplaced b.registry.hierarchy →
        ∃ w', (b.exchanged g).weave outside = .ok w' ∧ w.Alike w' ∧ ∀ depth s,
          ((b.exchanged g).build outside depth s).2 = (b.build outside depth s).2 ∧
          ((b.exchanged g).build outside depth s).1.map (·.map (·.container)) =
            (b.build outside depth s).1.map (·.map (·.container)) := by
  refine ⟨fun a ha => exists_declared h (Layer.mem_of_attached hl ha),
    fun a t m domain hd hm => ?declared, fun w hw => ?woven⟩
  case declared =>
    have ho := hd.only hm
    exact ⟨hd.pointcut.only ho, ho, Layer.not_attachedIn hl ho⟩
  case woven =>
    have ⟨advices', hs⟩ := weave_eq_ok hw
    cases h.symm.trans hs.classified
    refine ⟨Except.ok.inj (hs.layered.symm.trans hl), fun g hg => ?exchanged⟩
    have ⟨w', hw', hr⟩ := exists_weave_exchanged hw g Recoding.blank elsewhere
    have ⟨advices', hs'⟩ := weave_eq_ok hw'
    have ha := hs.alike_container hs' hg (congrArg (·.layer) hr)
    exact ⟨w', hw', ha, build_congr hw hw' ha.container.symm⟩

-- A market and an aspect with two advices of two expressions each: one on trade, one on what is
-- injected.
def market : Definition Unit :=
  ((Definition.make (.plain "shop.Market") fun _ => return .unit).addBody (.plain "sell") fun _ _ =>
    return .unit).addField (.plain "lamp" "shop.Lamp")

def watchTrades : Method :=
  ({ Method.advice "watch" with params := [proceedingJoinPointTypeName] }.around
    "execution(* sell(..))").around "execution(* buy(..)) && !within(shop.Clerk)"

def supplyLamps : Method :=
  ({ Method.advice "supply" with params := [autowireJoinPointTypeName] }.around
    "autowire(shop.Lamp)").around "autowire(shop.Candle) && target(shop.*)"

def warden : Aspect Unit :=
  ((Aspect.make (.plain "shop.Warden") fun _ => return .unit).around watchTrades .unit
    fun _ jp => jp.proceed).around supplyLamps .unit fun _ _ => return .text "candle"

def guardedMarket : Blueprint Unit where
  registry := ⟨[market, warden.component], by decide +kernel⟩
  catalog := Catalog.empty.insert warden.name warden.advices
  config := .default

-- Fails where an advice does not belong.
def failMisplaced : Exchange Unit := fun _ method body this jp =>
  if (method == "watch" && jp.domain == .autowire) ||
    (method == "supply" && jp.domain == .execution) then .fail (.other "misplaced")
  else body this jp

theorem guardedMarket_declarations :
    Classification.declarations guardedMarket.registry.hierarchy =
      [(warden.component.type, watchTrades), (warden.component.type, supplyLamps)] := by
  decide +kernel

theorem failMisplaced_misplaced : failMisplaced.Misplaced guardedMarket.registry.hierarchy := by
  rw [Exchange.Misplaced, guardedMarket_declarations]
  intro e he body this jp hp
  cases List.mem_pair.mp he
  case inl he =>
    subst he
    cases jp
    case execution => rfl
    case autowire  => exact absurd rfl hp
  case inr he =>
    subst he
    cases jp
    case execution => exact absurd rfl hp
    case autowire  => rfl

-- The advices are each at their own join points and at none of the others, and that they would fail
-- there makes no difference.
theorem weave_separates_kinds_market : ∃ advices w,
    guardedMarket.advices (guardedMarket.unfinished elsewhere) = .ok advices ∧
    Layer.weave guardedMarket.registry.hierarchy advices guardedMarket.config = .ok w.layer ∧
    guardedMarket.weave elsewhere = .ok w ∧
    (∃ a, w.layer.AttachedIn a .execution ∧ ¬w.layer.AttachedIn a .autowire) ∧
    (∃ a, w.layer.AttachedIn a .autowire ∧ ¬w.layer.AttachedIn a .execution) ∧
    ∃ w', (guardedMarket.exchanged failMisplaced).weave elsewhere = .ok w' ∧ w.Alike w' := by
  have ho : (guardedMarket.weave elsewhere).toOption.any fun w =>
      (w.layer.advisorsAt ⟨market.type, .plain "sell"⟩).length == 1 &&
        (w.layer.advisorsAtField ⟨market.type, .plain "lamp" "shop.Lamp"⟩).length == 1 := by
    decide +kernel
  have ⟨w, hw, hn⟩ := any_toOption.mp ho
  have ⟨hm, hf⟩ := Bool.and_eq_true_iff.mp hn
  have ⟨a, ha⟩ := List.length_eq_one_iff.mp (eq_of_beq hm)
  have ⟨a', ha'⟩ := List.length_eq_one_iff.mp (eq_of_beq hf)
  have ⟨advices, hs⟩ := weave_eq_ok hw
  have ⟨hd, hk, hx⟩ := weave_separates_kinds hs.classified hs.layered
  have hm : w.layer.AttachedIn a .execution := ⟨_, ha ▸ List.mem_cons_self⟩
  have hf : w.layer.AttachedIn a' .autowire := ⟨_, ha' ▸ List.mem_cons_self⟩
  have hn : ∀ a domain, w.layer.AttachedIn a domain → ¬w.layer.AttachedIn a domain.other := by
    intro a domain hl
    have ⟨e, he, hd⟩ := hd a (Layer.attached_iff.mpr ⟨domain, hl⟩)
    rw [guardedMarket_declarations] at he
    cases List.mem_pair.mp he
    case inl he =>
      subst he
      have ⟨_, _, hn⟩ := hk a _ _ .execution hd rfl
      cases domain
      case execution => exact hn
      case autowire  => cases hn hl
    case inr he =>
      subst he
      have ⟨_, _, hn⟩ := hk a _ _ .autowire hd rfl
      cases domain
      case execution => cases hn hl
      case autowire  => exact hn
  have ⟨_, hx⟩ := hx w hw
  have ⟨w', hw', hl, _⟩ := hx failMisplaced failMisplaced_misplaced
  exact ⟨advices, w, hs.classified, hs.layered, hw, ⟨a, hm, hn a _ hm⟩, ⟨a', hf, hn a' _ hf⟩,
    w', hw', hl⟩

end Blueprint
end Interpose
