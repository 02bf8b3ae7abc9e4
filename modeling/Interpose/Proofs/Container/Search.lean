import Mathlib.Data.List.Chain
import Mathlib.Data.List.Nodup
import Interpose.Proofs.Container.Dependency
import Interpose.Proofs.Container.Service
import Interpose.Proofs.Container.Settling

namespace Interpose

open Relation

variable {σ α β : Type}

namespace Container

variable (c : Container σ)

-- Every field that is to be filled stands for a component.
def Complete : Prop :=
  ∀ d ∈ c.registry.definitions, ∀ f ∈ d.type.injectedFields, ∃ d', c.resolve f.fieldType = .ok d'

-- What a request for a component arrives at allocating: which component, from which wiring and in
-- which state of the code of components.
inductive Allocates : Session σ → Definition σ → Definition σ → Wiring → σ → Prop
  -- All fields have been filled.
  | here {s s' : Session σ} {d : Definition σ} {chain : CreationChain} {w : Wiring} {n : Nat} :
    shared? d s = none → s.creating.start d.name = .ok chain →
      c.wiring (c.services n) d.type.injectedFields { s with creating := chain } = (.ok w, s') →
        Allocates s d d w s'.user
  -- Some fields have been filled and the next one is about to be.
  | field {s s' : Session σ} {d d' e : Definition σ} {chain : CreationChain} {w w' : Wiring}
    {n : Nat} {fs gs : List Field} {f : Field} {u : σ} :
    shared? d s = none → s.creating.start d.name = .ok chain →
      d.type.injectedFields = fs ++ f :: gs →
        c.wiring (c.services n) fs { s with creating := chain } = (.ok w, s') →
          c.resolve f.fieldType = .ok d' → Allocates s' d' e w' u → Allocates s d e w' u

-- No allocation that a request arrives at fails or asks the container for components, and neither
-- does the initialization after it.
def Harmless (s : Session σ) (d : Definition σ) : Prop :=
  ∀ e w u, c.Allocates s d e w u → ∃ target v, c.Evaluates (e.assembling w) u (.ok target) v

-- Distinct components, each of which needs the next one, and the first of them again.
def Circular (names : List String) : Prop :=
  ∃ n ns, names = n :: ns ++ [n] ∧ (n :: ns).Nodup ∧ names.IsChain c.Needs

def Reports (f : Failure) : Prop :=
  ∃ names, c.Circular names ∧ f.cause = .container (.circularDependency names) ∧
    f.cause.message = "circular dependency detected: " ++ " -> ".intercalate names

-- Each of the components that are being created needs the next one, the last of them the one that
-- is asked for.
structure Leads (s : Session σ) (d : Definition σ) : Prop where
  alive      : s.dropped = false
  distinct   : s.creating.names.Nodup
  registered : s.creating.names ⊆ c.registry.names
  needs      : (s.creating.names ++ [d.name]).IsChain c.Needs

-- A step comes to an end, and it only fails if a component comes upon a cycle.
def Concludes (x : Nat → Act σ α) (s : Session σ) (name : String) : Prop :=
  ∃ r s', Act.Settles x s r s' ∧ ∀ f, r = .error f → c.Cyclic name ∧ c.Reports f

variable {c} {d d' : Definition σ} {s s' t : Session σ} {name name' typeName : String}
variable {chain : CreationChain}

section Allocation

theorem Allocates.mem {e : Definition σ} {w : Wiring} {u : σ} (h : c.Allocates s d e w u)
    (hd : d ∈ c.registry.definitions) : e ∈ c.registry.definitions := by
  induction h
  case here           => exact hd
  case field hd' _ hi => exact hi (Registry.mem_of_resolve hd')

-- Code that never fails and never asks the container is harmless wherever it is arrived at.
theorem harmless_of_total (h : ∀ e ∈ c.registry.definitions, ∀ w u, ∃ target v,
    c.Evaluates (e.assembling w) u (.ok target) v) (hd : d ∈ c.registry.definitions) :
    c.Harmless s d :=
  fun e w u ha => h e (ha.mem hd) w u

end Allocation

section Cycle

theorem transGen_of_isChain {R : String → String → Prop} {a b : String} {as : List String}
    (h : (a :: as ++ [b]).IsChain R) : TransGen R a b := by
  induction as generalizing a
  case nil => exact .single (List.isChain_pair.mp h)
  case cons a' as hi =>
    have ⟨ha, h⟩ := List.isChain_cons_cons.mp h
    exact .head ha (hi h)

-- What has been begun since a component was begun for the first time leads back to it.
theorem Leads.circular (hl : c.Leads s d) {cycle : List String}
    (hst : s.creating.start d.name = .error cycle) : c.Cyclic d.name ∧ c.Circular cycle := by
  rw [CreationChain.start] at hst
  split at hst
  case isFalse => cases hst
  case isTrue hm =>
    obtain ⟨as, bs, hn, has⟩ := List.eq_append_cons_of_mem (List.contains_iff_mem.mp hm)
    have hs : s.creating.since d.name = d.name :: bs := by
      rw [CreationChain.since, hn, List.dropWhile_append_of_pos fun a ha => ?_]
      case _ => simp
      case _ => exact bne_iff_ne.mpr fun he => has (he ▸ ha)
    have hc : (as ++ (d.name :: bs ++ [d.name])).IsChain c.Needs := by simpa [hn] using hl.needs
    have hcy := hc.right_of_append
    have hd : (d.name :: bs).Nodup := (hn ▸ hl.distinct).of_append_right
    cases hst
    exact ⟨⟨d.name, .refl, transGen_of_isChain hcy⟩, d.name, bs, hs ▸ rfl, hd, hs ▸ hcy⟩

end Cycle

section Leads

-- There is room on the chain as long as a component can be begun.
theorem Leads.room (hl : c.Leads s d) (hd : d ∈ c.registry.definitions)
    (hst : s.creating.start d.name = .ok chain) :
    s.creating.names.length < c.registry.definitions.length := by
  have ⟨hn, _⟩ := CreationChain.start_eq_ok.mp hst
  have hm : d.name ∈ c.registry.names := List.mem_map_of_mem hd
  have hs := List.cons_subset.mpr ⟨hm, hl.registered⟩
  have hle := (List.nodup_cons.mpr ⟨hn, hl.distinct⟩).length_le_of_subset hs
  simpa [Registry.names, Nat.succ_le_iff] using hle

theorem Leads.field (hl : c.Leads s d) (hd : d ∈ c.registry.definitions)
    (hst : s.creating.start d.name = .ok chain) (hn : c.Needs d.name d'.name)
    (hs : Session.Leaves { s with creating := chain } s') : c.Leads s' d' := by
  have hd' : chain.names.Nodup := CreationChain.nodup_of_start hst hl.distinct
  obtain ⟨_, rfl⟩ := CreationChain.start_eq_ok.mp hst
  have hc : s'.creating.names = s.creating.names ++ [d.name] := congrArg (·.names) hs.creating
  constructor
  case alive      => exact hs.dropped.trans hl.alive
  case distinct   => exact hc ▸ hd'
  case registered =>
    rw [hc]
    refine List.append_subset.mpr ⟨hl.registered, List.cons_subset.mpr ⟨?_, List.nil_subset _⟩⟩
    exact List.mem_map_of_mem hd
  case needs =>
    rw [hc, List.append_assoc]
    exact List.isChain_append_cons_cons.mpr ⟨hl.needs, hn, .singleton _⟩

theorem wiring_leaves {services : Services σ} {inner : Chronicle σ}
    (hs : c.Regulates services inner) (fs : List Field) (s : Session σ) :
    s.Leaves (c.wiring services fs s).2 := by
  have he : c.wiring services fs = (fs.foldlM (fun w f =>
      (c.providers.code f.fieldType).bind fun v => .result (w.insert f.name v))
        Wiring.empty : Action σ Wiring).runPlain services := by
    rw [Behaviour.runPlain_foldlM]
    simp only [Behaviour.runPlain_bind, Providers.runPlain_code]
    rfl
  exact he ▸ Behaviour.leaves hs _ s

end Leads

namespace Concludes

variable {x : Nat → Act σ α} {y : Nat → Act σ β}

theorem of_settles {a : α} (h : Act.Settles x s (.ok a) s') : c.Concludes x s name :=
  ⟨.ok a, s', h, nofun⟩

theorem of_ok {a : α} (h : ∀ n, x n s = (.ok a, s')) : c.Concludes x s name :=
  .of_settles <| .of_eq h

theorem congr {y : Nat → Act σ α} (h : c.Concludes x s name) (he : ∀ n, y n s = x n s) :
    c.Concludes y s name := by
  obtain ⟨r, s', hs, hf⟩ := h
  exact ⟨r, s', hs.imp fun n hx => (he n).trans hx, hf⟩

theorem of_needs (hn : c.Needs name name') (h : c.Concludes x s name') : c.Concludes x s name := by
  obtain ⟨r, s', hs, hf⟩ := h
  exact ⟨r, s', hs, fun f he => ⟨.of_needs hn (hf f he).left, (hf f he).right⟩⟩

theorem bind {k : Nat → α → Act σ β} (h : c.Concludes x s name)
    (hk : ∀ a s', Act.Settles x s (.ok a) s' → c.Concludes (k · a) s' name) :
    c.Concludes (fun n => x n >>= k n) s name := by
  obtain ⟨r, s', hs, hf⟩ := h
  cases r
  case error f => exact ⟨.error f, s', hs.bind_error, fun f he => hf f (by cases he; rfl)⟩
  case ok a =>
    obtain ⟨r, t, ht, hf⟩ := hk a s' hs
    exact ⟨r, t, hs.bind_ok ht, hf⟩

-- Further steps that end when a step has ended do not make for another cause of a failure.
theorem imp (h : c.Concludes x s name)
    (ho : ∀ a s', ∃ b t', ∀ n, x n s = (.ok a, s') → y n t = (.ok b, t'))
    (hf : ∀ f s', ∃ f' t', f'.cause = f.cause ∧
      ∀ n, x n s = (.error (.failed f), s') → y n t = (.error (.failed f'), t')) :
    c.Concludes y t name := by
  obtain ⟨r, s', hs, hc⟩ := h
  cases r
  case ok a =>
    obtain ⟨b, t', hy⟩ := ho a s'
    exact .of_settles (hs.imp hy)
  case error f =>
    obtain ⟨f', t', he, hy⟩ := hf f s'
    have ⟨hcy, hr⟩ := hc f rfl
    refine ⟨.error f', t', hs.imp hy, fun _ hf' => ?_⟩
    cases hf'
    exact ⟨hcy, by simpa only [Reports, he] using hr⟩

end Concludes

section Search

-- Fields are filled one after the other, so it is enough that each of them can be.
theorem wiring_concludes (hr : c.Complete) (hd : d ∈ c.registry.definitions)
    (hg : ∀ {fs f gs d' n w s'}, d.type.injectedFields = fs ++ f :: gs →
      c.wiring (c.services n) fs s = (.ok w, s') → c.resolve f.fieldType = .ok d' →
        c.Concludes (fun n => (c.services n).get d'.name) s' d'.name) {fs gs : List Field}
    (he : d.type.injectedFields = fs ++ gs) :
    c.Concludes (fun n => c.wiring (c.services n) fs) s d.name := by
  induction fs using List.reverseRecOn generalizing gs
  case nil => exact .of_ok fun _ => rfl
  case append_singleton fs f hi =>
    rw [List.append_assoc] at he
    have hf : f ∈ d.type.injectedFields :=
      he ▸ List.mem_append_right _ (List.mem_append_left _ (List.mem_singleton_self f))
    obtain ⟨d', hd'⟩ := hr d hd f hf
    have hn : c.Needs d.name d'.name := (needs_iff hd).mpr ⟨f, hf, d', hd', rfl⟩
    simp only [wiring_snoc]
    refine (hi he).bind fun w t ht => ?_
    obtain ⟨least, hw⟩ := ht
    have hv : c.Concludes (fun n => c.providers.get (c.services n) f.fieldType) t d'.name :=
      ((hg he (hw least (Nat.le_refl _)) hd').bind fun _ _ _ => .of_ok fun _ => rfl).congr
        fun _ => providers_get hd' t
    exact (hv.of_needs hn).bind fun _ _ _ => .of_ok fun _ => rfl

theorem create_concludes (hc : c.MadeBy .plain)
    (hw : c.Concludes (fun n => c.wiring (c.services n) d.type.injectedFields) s d.name)
    (ha : ∀ {n w s'}, c.wiring (c.services n) d.type.injectedFields s = (.ok w, s') →
      ∃ target v, c.Evaluates (d.assembling w) s'.user (.ok target) v) :
    c.Concludes (fun n => c.create (c.services n) d) s d.name := by
  have hr : c.Concludes (fun n =>
      (Instantiator.code c.providers .plain d).runPlain (c.services n)) s d.name := by
    simp only [Instantiator.code, runPlain_code]
    refine hw.bind fun w t ht => ?_
    obtain ⟨least, hl⟩ := ht
    obtain ⟨target, v, he⟩ := ha (hl least (Nat.le_refl _))
    exact .of_settles (he.settles hc rfl)
  exact hr.imp (fun _ _ => ⟨_, _, fun _ hr => create_of_ok hc hr⟩)
    (fun f _ => ⟨f.whileCreating d.name, _, rfl, fun _ hr => create_of_failed hc hr⟩)

theorem make_concludes (h : c.Concludes (fun n => c.create (c.services n) d) s name) :
    c.Concludes (fun n => c.make (c.services n) d) s name := by
  cases hd : d.scope
  case prototype => exact h.congr fun _ => congrFun (make_of_prototype hd) s
  case singleton =>
    exact h.imp (fun _ _ => ⟨_, _, fun _ hr => make_of_ok hd hr⟩)
      (fun _ _ => ⟨_, _, rfl, fun _ hr => make_of_error hd hr⟩)

theorem tracked_concludes {x : Nat → Act σ Handle} (hst : s.creating.start d.name = .ok chain)
    (h : c.Concludes x { s with creating := chain } name) :
    c.Concludes (fun n => tracked d.name (x n)) s name :=
  h.imp (fun _ _ => ⟨_, _, fun _ hx => (tracked_of_ok hst).trans (by rw [hx])⟩)
    (fun _ _ => ⟨_, _, rfl, fun _ hx => (tracked_of_ok hst).trans (by rw [hx])⟩)

theorem getWhileAlive_concludes (ha : s.dropped = false)
    (h : c.Concludes (fun n => c.get (c.services n) typeName) s name) :
    c.Concludes (fun n => (c.services n).get typeName) s name := by
  obtain ⟨r, s', hs, hf⟩ := h
  exact ⟨r, s', hs.succ fun _ => getWhileAlive_of_alive ha, hf⟩

-- The induction is on the number of components that are not on the chain.
theorem get_concludes (hc : c.MadeBy .plain) (hr : c.Complete) (hl : c.Leads s d)
    (hd : c.resolve typeName = .ok d) (hh : c.Harmless s d) :
    c.Concludes (fun n => c.get (c.services n) typeName) s d.name := by
  induction hk : c.registry.definitions.length - s.creating.names.length using
    Nat.strongRecOn generalizing s d typeName
  case ind k hi =>
    have hm := Registry.mem_of_resolve hd
    cases hn : shared? d s
    case some => exact .of_ok fun _ => get_of_shared hd hn
    case none =>
      refine Concludes.congr ?_ fun _ => get_of_not_shared hd hn
      cases hst : s.creating.start d.name
      case error cycle =>
        have ⟨hcy, hci⟩ := hl.circular hst
        refine ⟨.error _, s, .of_eq fun _ => tracked_of_cycle hst, fun f hf => ?_⟩
        cases hf
        exact ⟨hcy, cycle, hci, rfl, rfl⟩
      case ok chain =>
        refine tracked_concludes hst <| make_concludes <| create_concludes hc ?wired
          fun hw => hh d _ _ (.here hn hst hw)
        refine wiring_concludes hr hm ?_ (List.append_nil _).symm
        intro fs f gs d' n w s' he hw hd'
        have hle := wiring_leaves (regulates hc n) fs { s with creating := chain }
        rw [hw] at hle
        have hf := (needs_iff hm).mpr ⟨f, he ▸ List.mem_append_cons_self, d', hd', rfl⟩
        have hl' := hl.field hm hst hf hle
        refine getWhileAlive_concludes hl'.alive <| hi _ ?_ hl'
          (Registry.resolve_name (Registry.mem_of_resolve hd'))
          (fun e w u ha => hh e w u (.field hn hst he hw hd' ha)) rfl
        obtain ⟨_, rfl⟩ := CreationChain.start_eq_ok.mp hst
        have hro := hl.room hm hst
        rw [hle.creating, List.length_append, List.length_singleton]
        omega

end Search

section Detection

variable (depth : Nat) (u : σ) (rs : List (Request σ))

theorem serveAll_stocked (hc : c.MadeBy .plain) : c.Stocked (c.serveAll depth rs (.start u)) :=
  serveAll_keeps (P := c.Stocked)
    (fun typeName _ hp => (get_stocks (stocks hc depth) hc typeName hp).left)
    (fun b _ hp => stocked_runPlain (stocks hc depth) b hp) rs nofun

theorem serveAll_leads (hc : c.MadeBy .plain) (d : Definition σ) :
    c.Leads (c.serveAll depth rs (.start u)) d := by
  have hl : Session.Leaves (.start u) (c.serveAll depth rs (.start u)) := serveAll_leaves hc rs _
  have hn : (c.serveAll depth rs (.start u)).creating.names = [] := congrArg (·.names) hl.creating
  constructor
  case alive      => exact hl.dropped
  case distinct   => exact hn ▸ .nil
  case registered => exact hn ▸ List.nil_subset _
  case needs      => rw [hn]; exact .singleton d.name

-- Instances are made the plain way, all fields stand for components and no code fails or asks the
-- container. Then, whatever has been asked for before, a request for a component comes to an end:
-- with an instance if the component comes upon no cycle, or else with a report of a cycle.
theorem get_detects_cycles (hc : c.MadeBy .plain) (hr : c.Complete)
    (hd : c.resolve typeName = .ok d) (hh : c.Harmless (c.serveAll depth rs (.start u)) d) :
    ∃ r s', Act.Settles (fun n => c.get (c.services n) typeName)
        (c.serveAll depth rs (.start u)) r s' ∧
      ((∃ h, r = .ok h) ↔ ¬c.Cyclic d.name) ∧ ∀ f, r = .error f → c.Reports f := by
  obtain ⟨r, s', hs, hf⟩ := get_concludes hc hr (serveAll_leads depth u rs hc d) hd hh
  refine ⟨r, s', hs, ⟨?acyclic, ?made⟩, fun f he => (hf f he).right⟩
  case acyclic =>
    rintro ⟨h, rfl⟩
    obtain ⟨least, hs⟩ := hs
    have hg := hs least (Nat.le_refl _)
    have hp := serveAll_stocked depth u rs hc
    exact (get_stocks (stocks hc least) hc typeName hp).right hd hg
  case made =>
    intro ha
    cases r
    case ok h    => exact ⟨h, rfl⟩
    case error f => exact absurd (hf f rfl).left ha

end Detection

-- A hen and an egg, which need each other, and a nest, which needs neither.
def hen : Definition Unit :=
  (Definition.make (.plain "farm.Hen") fun w => .result w.toValue).addField
    (.plain "egg" "farm.Egg")

def egg : Definition Unit :=
  ((Definition.make (.plain "farm.Egg") fun w => .result w.toValue).addField
    (.plain "hen" "farm.Hen")).setScope .prototype

def nest : Definition Unit :=
  .make (.plain "farm.Nest") fun w => .result w.toValue

def farm : Container Unit :=
  .plain ⟨[hen, egg, nest], by decide +kernel⟩ fun name =>
    .make (.plain name) fun _ => .result .unit

theorem resolve_hen : farm.resolve "farm.Hen" = .ok hen :=
  Registry.resolve_name (d := hen) (.head _)

theorem resolve_egg : farm.resolve "farm.Egg" = .ok egg :=
  Registry.resolve_name (d := egg) (.tail _ <| .head _)

theorem resolve_nest : farm.resolve "farm.Nest" = .ok nest :=
  Registry.resolve_name (d := nest) (.tail _ <| .tail _ <| .head _)

theorem farm_madeBy_plain : farm.MadeBy .plain :=
  rfl

theorem farm_complete : farm.Complete := by
  intro d hd f hf
  rcases hd with _ | ⟨_, _ | ⟨_, _ | ⟨_, ⟨⟩⟩⟩⟩ <;> rcases hf with _ | ⟨_, ⟨⟩⟩
  case head => exact ⟨egg, resolve_egg⟩
  case tail => exact ⟨hen, resolve_hen⟩

theorem farm_harmless {s : Session Unit} {d : Definition Unit}
    (hd : d ∈ farm.registry.definitions) : farm.Harmless s d := by
  refine harmless_of_total (fun e he w u => ⟨w.toValue, u, ?_⟩) hd
  rcases he with _ | ⟨_, _ | ⟨_, _ | ⟨_, ⟨⟩⟩⟩⟩ <;> exact .result w.toValue u

theorem hen_cyclic : farm.Cyclic "farm.Hen" := by
  have hh : farm.Needs "farm.Hen" "farm.Egg" :=
    ⟨hen, .head _, rfl, _, .head _, egg, resolve_egg, rfl⟩
  have he : farm.Needs "farm.Egg" "farm.Hen" :=
    ⟨egg, .tail _ <| .head _, rfl, _, .head _, hen, resolve_hen, rfl⟩
  exact ⟨"farm.Hen", .refl, .head hh <| .single he⟩

theorem nest_not_cyclic : ¬farm.Cyclic "farm.Nest" := by
  intro hc
  have hm : nest ∈ farm.registry.definitions := .tail _ <| .tail _ <| .head _
  obtain ⟨_, hn, _⟩ := hc.exists_needs
  obtain ⟨_, hf, _⟩ := (needs_iff hm).mp hn
  cases hf

theorem get_detects_cycles_farm :
    (∃ h s', Act.Settles (fun n => farm.get (farm.services n) "farm.Nest")
      (farm.serveAll 3 [.get "farm.Egg"] (.start ())) (.ok h) s') ∧
    ∃ f s', Act.Settles (fun n => farm.get (farm.services n) "farm.Hen")
      (farm.serveAll 3 [.get "farm.Egg"] (.start ())) (.error f) s' ∧ farm.Reports f := by
  have hn := get_detects_cycles 3 () [.get "farm.Egg"] farm_madeBy_plain farm_complete
    resolve_nest (farm_harmless <| .tail _ <| .tail _ <| .head _)
  have hh := get_detects_cycles 3 () [.get "farm.Egg"] farm_madeBy_plain farm_complete
    resolve_hen (farm_harmless <| .head _)
  constructor
  case left =>
    obtain ⟨_, s', hs, hi, _⟩ := hn
    obtain ⟨h, rfl⟩ := hi.mpr nest_not_cyclic
    exact ⟨h, s', hs⟩
  case right =>
    obtain ⟨r, s', hs, hi, hf⟩ := hh
    cases r
    case ok h    => exact absurd hen_cyclic (hi.mp ⟨h, rfl⟩)
    case error f => exact ⟨f, s', hs, hf f rfl⟩

end Container
end Interpose
