import Interpose.Proofs.Component.Registry
import Interpose.Proofs.Container.Creation

namespace Interpose

variable {σ : Type}

-- What clients do with a container.
inductive Request (σ : Type) : Type 1 where
  | get (typeName : String)
  -- Asks for the instance behind a component.
  | getTyped {α : Type} (kind : Kind α) (typeName : String)
  -- Has the singletons made that are not lazy.
  | makeEager
  -- Asks the provider for a type.
  | provide (typeName : String)
  -- Runs code of the client, which may call methods on handles.
  | run {α : Type} (code : Action σ α)

namespace Container

variable (c : Container σ) (i : Instantiator σ) (services : Services σ) (inner : Chronicle σ)

-- Has components made one after the other, up to the first failure.
def getEach (names : List String) : Act σ Unit :=
  names.forM fun name => do discard (c.get services name)

def serve : Request σ → Act σ Unit
  | .get typeName => discard (c.get services typeName)
  | .getTyped kind typeName => do
    discard (Act.check (kind.exactly (← c.get services typeName).target))
  | .makeEager => c.makeEager services
  | .provide typeName => discard (c.providers.get services typeName)
  | .run code => discard (code.runPlain services)

-- What happens while components are asked for one after the other, up to the first failure.
def eagerHistory : List String → Session σ → List (Moment σ)
  | [], _ => []
  | name :: names, s =>
    c.getHistory i services inner [] name s ++
      match c.get services name s with
      | (.ok _, s') => eagerHistory names s'
      | (.error _, _) => []

def serviceHistory : Request σ → Session σ → List (Moment σ)
  | .get typeName, s => c.getHistory i services inner [] typeName s
  | .getTyped _ typeName, s => c.getHistory i services inner [] typeName s
  | .makeEager, s => c.eagerHistory i services inner c.eager s
  | .provide typeName, s => (c.providers.code typeName).history services inner [] s
  | .run code, s => code.history services inner [] s

-- The session after some requests, each of which may have failed.
def serveAll (depth : Nat) : List (Request σ) → Session σ → Session σ
  | [], s => s
  | r :: rs, s => serveAll depth rs (c.serve (c.services depth) r s).2

def fullHistory (depth : Nat) : List (Request σ) → Session σ → List (Moment σ)
  | [], _ => []
  | r :: rs, s =>
    c.serviceHistory i (c.services depth) (c.chronicle i depth) r s ++
      fullHistory depth rs (c.serve (c.services depth) r s).2

variable {c i services inner} {s s' : Session σ} {depth : Nat}

section Service

theorem discard_eq {α : Type} (x : Act σ α) (s : Session σ) :
    discard x s = ((x s).1.map fun _ => PUnit.unit, (x s).2) := by
  rw [show discard x = x >>= fun _ => pure ⟨⟩ from (bind_pure_comp _ x).symm]
  rcases h : x s with ⟨_ | _, t⟩
  case error => exact Step.bind_of_error h
  case ok    => exact Step.bind_of_ok h

theorem getEach_cons_of_ok {name : String} {names : List String} {h : Handle}
    (hg : c.get services name s = (.ok h, s')) :
    c.getEach services (name :: names) s = c.getEach services names s' := by
  rw [getEach, List.forM]
  exact Step.bind_of_ok ((discard_eq _ s).trans (by rw [hg]; rfl))

theorem getEach_cons_of_error {name : String} {names : List String} {halt : Halt}
    (hg : c.get services name s = (.error halt, s')) :
    c.getEach services (name :: names) s = (.error halt, s') := by
  rw [getEach, List.forM]
  exact Step.bind_of_error ((discard_eq _ s).trans (by rw [hg]; rfl))

theorem getEach_keeps {P : Session σ → Prop}
    (hg : ∀ typeName s, P s → P (c.get services typeName s).2) (names : List String) (hs : P s) :
    P (c.getEach services names s).2 := by
  induction names generalizing s
  case nil => exact hs
  case cons name names hi =>
    have hk := hg name s hs
    rcases hg' : c.get services name s with ⟨_ | _, t⟩ <;> rw [hg'] at hk
    case error => exact getEach_cons_of_error hg' ▸ hk
    case ok    => exact getEach_cons_of_ok hg' ▸ hi hk

theorem getEach_leaves (hs : c.Regulates services inner) (hc : c.MadeBy i) (names : List String)
    (s : Session σ) : s.Leaves (c.getEach services names s).2 :=
  getEach_keeps (P := (s.Leaves ·)) (fun typeName t hl => hl.trans (get_leaves hs hc typeName t))
    names (.refl s)

theorem getEach_recounts (hs : c.Regulates services inner) (hc : c.MadeBy i) (names : List String)
    (hr : s.Ready []) : c.Recounts s (c.eagerHistory i services inner names s)
      (c.getEach services names s).2 := by
  induction names generalizing s
  case nil => exact .nil
  case cons name names hi =>
    have hl := get_leaves hs hc name s
    have hh := get_recounts hs hc name hr
    rcases hg : c.get services name s with ⟨_ | _, t⟩ <;> rw [hg] at hl hh <;>
      rw [eagerHistory, hg]
    case error =>
      rw [getEach_cons_of_error hg]
      exact hh.append .nil hl.grows (.refl t)
    case ok =>
      rw [getEach_cons_of_ok hg]
      exact hh.append (hi (hl.ready hr)) hl.grows (getEach_leaves hs hc names t).grows

theorem serve_getTyped {α : Type} (kind : Kind α) (typeName : String) (s : Session σ) :
    (c.serve services (.getTyped kind typeName) s).2 = (c.get services typeName s).2 := by
  rcases hg : c.get services typeName s with ⟨_ | h, t⟩
  case error => rw [serve, Step.bind_of_error hg]
  case ok    =>
    rw [serve, Step.bind_of_ok hg, discard_eq]
    cases kind.exactly h.target <;> rfl

-- What gets and code keep, every request keeps.
theorem serve_keeps {P : Session σ → Prop}
    (hg : ∀ typeName s, P s → P (c.get services typeName s).2)
    (hr : ∀ {α : Type} (b : Action σ α) s, P s → P (b.runPlain services s).2) (r : Request σ)
    (hs : P s) : P (c.serve services r s).2 := by
  cases r
  case get typeName =>
    rw [serve, discard_eq]
    exact hg typeName s hs
  case getTyped kind typeName =>
    rw [serve_getTyped]
    exact hg typeName s hs
  case makeEager => exact getEach_keeps hg c.eager hs
  case provide typeName =>
    rw [serve, discard_eq, ← Providers.runPlain_code]
    exact hr _ s hs
  case run code =>
    rw [serve, discard_eq]
    exact hr code s hs

theorem serve_leaves (hs : c.Regulates services inner) (hc : c.MadeBy i) (r : Request σ)
    (s : Session σ) : s.Leaves (c.serve services r s).2 :=
  serve_keeps (P := (s.Leaves ·)) (fun typeName t hl => hl.trans (get_leaves hs hc typeName t))
    (fun b t hl => hl.trans (Behaviour.leaves hs b t)) r (.refl s)

theorem serve_recounts (hs : c.Regulates services inner) (hc : c.MadeBy i) (r : Request σ)
    (hr : s.Ready []) : c.Recounts s (c.serviceHistory i services inner r s)
      (c.serve services r s).2 := by
  cases r
  case get typeName =>
    rw [serve, discard_eq]
    exact get_recounts hs hc typeName hr
  case getTyped kind typeName =>
    rw [serve_getTyped]
    exact get_recounts hs hc typeName hr
  case makeEager => exact getEach_recounts hs hc c.eager hr
  case provide typeName =>
    rw [serve, discard_eq, ← Providers.runPlain_code]
    exact Behaviour.recounts hs _ hr
  case run code =>
    rw [serve, discard_eq]
    exact Behaviour.recounts hs code hr

theorem serveAll_keeps {P : Session σ → Prop}
    (hg : ∀ typeName s, P s → P (c.get (c.services depth) typeName s).2)
    (hr : ∀ {α : Type} (b : Action σ α) s, P s → P (b.runPlain (c.services depth) s).2)
    (rs : List (Request σ)) (hs : P s) : P (c.serveAll depth rs s) := by
  induction rs generalizing s
  case nil          => exact hs
  case cons r rs hi => exact hi (serve_keeps hg hr r hs)

theorem serveAll_leaves (hc : c.MadeBy i) (rs : List (Request σ)) (s : Session σ) :
    s.Leaves (c.serveAll depth rs s) :=
  have hs := regulates hc depth
  serveAll_keeps (P := (s.Leaves ·)) (fun typeName t hl => hl.trans (get_leaves hs hc typeName t))
    (fun b t hl => hl.trans (Behaviour.leaves hs b t)) rs (.refl s)

theorem serveAll_recounts (hc : c.MadeBy i) (rs : List (Request σ)) (hr : s.Ready []) :
    c.Recounts s (c.fullHistory i depth rs s) (c.serveAll depth rs s) := by
  induction rs generalizing s
  case nil          => exact .nil
  case cons r rs hi =>
    have hl := serve_leaves (regulates hc depth) hc r s
    exact (serve_recounts (regulates hc depth) hc r hr).append (hi <| hl.ready hr) hl.grows
      (serveAll_leaves hc rs _).grows

end Service

section Sharing

variable {d : Definition σ} {typeName : String} {h : Handle} {ms : List (Moment σ)}
variable {running names : List String}

-- What a history shows of the cells of singletons and of what is given.
structure Shares (c : Container σ) (ms : List (Moment σ)) : Prop where
  -- A cell is filled once at most, and it keeps its handle.
  once : ms.Pairwise fun m m' => ∀ {name h h'}, m.event = .fills name h →
    m'.event ≠ .fills name h'
  distinct : ∀ m ∈ ms, (m.session.cells.map (·.1)).Nodup
  stable : ms.Pairwise fun m m' => ∀ {name h}, m.session.cells.lookup name = some h →
    m'.session.cells.lookup name = some h
  -- A failure leaves it empty.
  emptied : ∀ m ∈ ms, ∀ {name}, m.event = .fails name → m.session.cells.lookup name = none
  -- What is given for a singleton, by whatever type, is one handle.
  shared : ∀ m ∈ ms, ∀ m' ∈ ms, ∀ {typeName typeName' h h' d}, m.event = .gives typeName h →
    m'.event = .gives typeName' h' → c.resolve typeName = .ok d → c.resolve typeName' = .ok d →
    d.scope = .singleton → h = h'
  -- What is given for a prototype has never been given before.
  fresh : ms.Pairwise fun m m' => ∀ {typeName typeName' h h' d}, m.event = .gives typeName h →
    m'.event = .gives typeName' h' → c.resolve typeName' = .ok d → d.scope = .prototype → h ≠ h'

theorem Recounts.shares (hr : c.Recounts s ms s') : c.Shares ms where
  once := hr.ordered.imp_of_mem fun hm _ hf _ _ _ he he' =>
    nomatch (hf.fills he').symm.trans ((hr.upholds _ hm).fills he)
  distinct m hm := (hr.upholds m hm).ready.sound.distinct
  stable := hr.ordered.imp fun hf _ _ => hf.grows.cells
  emptied m hm _ := (hr.upholds m hm).fails
  shared m hm m' hm' _ _ _ _ _ he he' hd hd' hs := by
    -- Both moments come before the end of the history, where the cell has one handle.
    obtain ⟨_, hd₁, _, hl⟩ := (hr.upholds m hm).gives he
    obtain ⟨_, hd₂, _, hl'⟩ := (hr.upholds m' hm').gives he'
    cases hd.symm.trans hd₁
    cases hd'.symm.trans hd₂
    have h₁ := (hr.grows m hm).cells (hl hs)
    have h₂ := (hr.grows m' hm').cells (hl' hs)
    exact Option.some.inj (h₁.symm.trans h₂)
  fresh := hr.ordered.imp_of_mem fun hm hm' hf _ _ _ _ _ he he' hd hs => by
    obtain ⟨_, _, hlt, _⟩ := (hr.upholds _ hm).gives he
    have hle := hf.gives he' hd hs
    rintro rfl
    exact Nat.not_lt_of_le hle hlt

-- A request for a singleton that fails finds the cell empty and leaves it so.
theorem lookup_of_get_error (hs : c.Regulates services inner) (hc : c.MadeBy i) {halt : Halt}
    (hr : c.resolve typeName = .ok d) (hd : d.scope = .singleton)
    (hg : c.get services typeName s = (.error halt, s')) : s'.cells.lookup d.name = none := by
  cases hn : shared? d s
  case some => cases hg.symm.trans (get_of_shared hr hn)
  case none =>
    rw [get_of_not_shared hr hn] at hg
    cases hst : s.creating.start d.name
    case error =>
      cases hg.symm.trans (tracked_of_cycle hst)
      exact shared?_of_singleton hd ▸ hn
    case ok chain =>
      have hl := create_lookup hs hc hd hn hst
      rw [tracked_of_ok hst] at hg
      rcases hcr : c.create services d { s with creating := chain } with ⟨_ | h, t⟩ <;>
        rw [hcr] at hl
      case error =>
        rw [make_of_error hd hcr] at hg
        cases hg
        exact hl
      case ok =>
        rw [make_of_ok hd hcr] at hg
        cases hg

-- As long as the cell is empty, a request for it begins with its initialization, unless that is
-- going on.
theorem getHistory_enters (hr : c.resolve typeName = .ok d) (hd : d.scope = .singleton)
    (hn : s.cells.lookup d.name = none) (hb : d.name ∉ s.creating.names) :
    ∃ m ms, c.getHistory i services inner running typeName s = m :: ms ∧
      m.event = .enters d.name := by
  have hst := CreationChain.start_eq_ok.mpr ⟨hb, rfl⟩
  rw [getHistory_of_begun hr (shared?_of_singleton hd ▸ hn) hst, makeHistory_of_singleton hd]
  exact ⟨_, _, rfl, rfl⟩

-- The name of a singleton, which is a type that resolves to it.
structure Names (c : Container σ) (name : String) (d : Definition σ) : Prop where
  resolve   : c.resolve name = .ok d
  name      : d.name = name
  singleton : d.scope = .singleton

theorem names_of_mem (hd : d ∈ c.registry.definitions) (hs : d.scope = .singleton) :
    c.Names d.name d where
  resolve   := Registry.resolve_name hd
  name      := rfl
  singleton := hs

theorem names_of_eager {name : String} (hn : name ∈ c.eager) : ∃ d, c.Names name d := by
  obtain ⟨d, hd, rfl⟩ := List.mem_map.mp hn
  obtain ⟨hm, hd⟩ := List.mem_filter.mp hd
  simp only [Bool.and_eq_true, beq_iff_eq] at hd
  exact ⟨d, names_of_mem hm hd.left⟩

-- When all of them have been made, all of them are there.
theorem getEach_eq_ok (hs : c.Regulates services inner) (hc : c.MadeBy i) (hss : s.Sound)
    (hn : ∀ n ∈ names, ∃ d, c.Names n d) (hg : c.getEach services names s = (.ok (), s')) :
    ∀ n ∈ names, ∃ h, s'.cells.lookup n = some h := by
  induction names generalizing s
  case nil => nofun
  case cons n names hi =>
    have ⟨⟨d, hd⟩, hn⟩ := List.forall_mem_cons.mp hn
    have hl := get_leaves hs hc n s
    rcases hg' : c.get services n s with ⟨_ | h, t⟩ <;> rw [hg'] at hl
    case error => cases hg.symm.trans (getEach_cons_of_error hg')
    case ok =>
      rw [getEach_cons_of_ok hg'] at hg
      have ⟨_, hc', _⟩ := get_gives hs hc hss hd.resolve hg'
      have hgr := (getEach_leaves hs hc names t).grows
      rw [hg] at hgr
      refine List.forall_mem_cons.mpr ⟨⟨h, hgr.cells ?_⟩, hi (hl.sound hss) hn hg⟩
      exact hd.name ▸ hc' hd.singleton

-- When all of them are there, nothing is made and no code is run.
theorem getEach_of_there (hn : ∀ n ∈ names, ∃ d h, c.Names n d ∧ s.cells.lookup n = some h) :
    c.getEach services names s = (.ok (), s) ∧
      ∀ m ∈ c.eagerHistory i services inner names s, ∃ typeName h, m.event = .gives typeName h := by
  induction names
  case nil => exact ⟨rfl, nofun⟩
  case cons n names hi =>
    have ⟨⟨d, h, hd, hl⟩, hn⟩ := List.forall_mem_cons.mp hn
    have hs : shared? d s = some h := by rw [shared?_of_singleton hd.singleton, hd.name, hl]
    have hg : c.get services n s = (.ok h, s) := get_of_shared hd.resolve hs
    have ⟨he, hh⟩ := hi hn
    refine ⟨(getEach_cons_of_ok hg).trans he, fun m hm => ?_⟩
    rw [eagerHistory, hg, getHistory_of_shared hd.resolve hs, hg] at hm
    cases List.mem_append.mp hm
    case inl hm =>
      cases List.mem_singleton.mp hm
      exact ⟨n, h, rfl⟩
    case inr hm => exact hh m hm

end Sharing

-- Whatever clients do, singletons are made once and shared, and prototypes are made anew. A request
-- for a singleton that fails is forgotten: the next one begins afresh. Once all singletons have
-- been made that are not lazy, all of them are there and making them again runs no code.
theorem shares_singletons (hc : c.MadeBy i) (depth : Nat) (u : σ) :
    (∀ rs, c.Shares (c.fullHistory i depth rs (.start u))) ∧
    (∀ s s' typeName d halt, c.resolve typeName = .ok d → d.scope = .singleton →
      d.name ∉ s.creating.names → c.get (c.services depth) typeName s = (.error halt, s') →
      s'.cells.lookup d.name = none ∧
      ∀ typeName' running, c.resolve typeName' = .ok d →
        ∃ m ms, c.getHistory i (c.services depth) (c.chronicle i depth) running typeName' s' =
          m :: ms ∧ m.event = .enters d.name) ∧
    ∀ rs s', c.makeEager (c.services depth) (c.serveAll depth rs (.start u)) = (.ok (), s') →
      (∀ d ∈ c.registry.definitions, d.scope = .singleton → d.lazy = false →
        ∃ h, s'.cells.lookup d.name = some h) ∧
      ∀ rs' services inner,
        c.makeEager services (c.serveAll depth rs' s') = (.ok (), c.serveAll depth rs' s') ∧
        ∀ m ∈ c.serviceHistory i services inner .makeEager (c.serveAll depth rs' s'),
          ∃ typeName h, m.event = .gives typeName h := by
  have hs := regulates hc depth
  refine ⟨fun rs => (serveAll_recounts hc rs Session.start_ready).shares, ?failed, ?eager⟩
  case failed =>
    intro s s' typeName d halt hr hd hb hg
    have hn := lookup_of_get_error hs hc hr hd hg
    have hl := get_leaves hs hc typeName s
    rw [hg] at hl
    exact ⟨hn, fun _ _ hr' => getHistory_enters hr' hd hn (hl.creating ▸ hb)⟩
  case eager =>
    intro rs s' he
    have hss : (c.serveAll depth rs (.start u)).Sound :=
      (serveAll_leaves hc rs _).sound Session.start_sound
    have hf := getEach_eq_ok hs hc hss (fun _ => names_of_eager) he
    constructor
    case left =>
      intro d hd hsi hl
      exact hf d.name <| List.mem_map_of_mem <| List.mem_filter.mpr ⟨hd, by simp [hsi, hl]⟩
    case right =>
      intro rs' services inner
      refine getEach_of_there fun n hn => ?_
      obtain ⟨d, hd⟩ := names_of_eager hn
      obtain ⟨h, hh⟩ := hf n hn
      exact ⟨d, h, hd, (serveAll_leaves hc rs' s').grows.cells hh⟩

-- A till, which is shared, and receipts for it, which are not.
def till : Definition Unit :=
  .make (.plain "shop.Till") fun _ => .result .unit

def receipt : Definition Unit :=
  ((Definition.make (.plain "shop.Receipt") fun w => .result w.toValue).addField
    (.plain "till" "shop.Till")).setScope .prototype

def shop : Container Unit :=
  .plain ⟨[till, receipt], by decide +kernel⟩ fun name => .make (.plain name) fun _ => .result .unit

theorem shop_madeBy_plain : shop.MadeBy .plain :=
  rfl

theorem shares_singletons_shop : shop.MadeBy .plain ∧
    shop.Shares (shop.fullHistory .plain 3
      [.get "shop.Receipt", .provide "shop.Till", .makeEager, .get "shop.Receipt"] (.start ())) :=
  ⟨rfl, (shares_singletons shop_madeBy_plain 3 ()).left _⟩

-- Whatever code does with a container while components are being created, what is being created
-- when a request has been answered is what was before. A request has an instance made only if that
-- is not going on already, and then it is going on until the instance is there. A request that is
-- watched comes to the same as one that is not, and it is seen that nothing is created within its
-- own creation.
theorem creation_balanced (hc : c.MadeBy i) (depth : Nat) :
    (∀ typeName s, ((c.services depth).get typeName s).2.creating = s.creating ∧
      (c.get (c.services depth) typeName s).2.creating = s.creating) ∧
    (∀ typeName s (making : Definition σ → Act σ Handle),
      (∀ d, c.resolve typeName = .ok d → shared? d s = none → d.name ∉ s.creating.names →
        making d { s with creating := ⟨s.creating.names ++ [d.name]⟩ } =
          c.make (c.services depth) d { s with creating := ⟨s.creating.names ++ [d.name]⟩ }) →
      c.find making typeName s = c.get (c.services depth) typeName s) ∧
    (∀ running typeName,
      (c.recordedGet i (c.services depth) (c.chronicle i depth) running typeName).Watches
        (c.get (c.services depth) typeName) ∧
      (c.recordedGetWhileAlive i (c.services depth) (c.chronicle i depth) running typeName).Watches
        ((c.services (depth + 1)).get typeName)) ∧
    ∀ u rs, (c.serveAll depth rs (.start u)).creating = .empty ∧
      ∀ m ∈ c.fullHistory i depth rs (.start u), m.session.creating.names.Nodup ∧
        m.running.Nodup ∧ m.running ⊆ m.session.creating.names ∧
        ∀ name, m.event = .enters name → name ∉ m.running := by
  have hs := regulates hc depth
  refine ⟨?balanced, fun _ _ _ => find_congr, ?watched, ?told⟩
  case balanced =>
    exact fun typeName s => ⟨(hs.get typeName s).creating, (get_leaves hs hc typeName s).creating⟩
  case watched =>
    exact fun _ typeName => ⟨recordedGet_watches typeName, recordedGetWhileAlive_watches typeName⟩
  case told =>
    intro u rs
    refine ⟨(serveAll_leaves hc rs (.start u)).creating, fun m hm => ?_⟩
    have hu := (serveAll_recounts hc rs Session.start_ready).upholds m hm
    exact ⟨hu.ready.chain, hu.ready.nodup, hu.ready.cells, fun _ => hu.enters⟩

theorem creation_balanced_shop : shop.MadeBy .plain ∧
    (shop.serveAll 3 [.get "shop.Receipt", .provide "shop.Till"] (.start ())).creating = .empty :=
  ⟨rfl, ((creation_balanced shop_madeBy_plain 3).right.right.right () _).left⟩

end Container
end Interpose
