import Interpose.Proofs.Container.History

namespace Interpose

variable {σ α : Type}

namespace Session

variable {s s' s'' : Session σ} {name : String} {h : Handle} {running : List String}

-- Cells have been filled once, by handles that have been made.
structure Sound (s : Session σ) : Prop where
  distinct : (s.cells.map (·.1)).Nodup
  serials  : ∀ {name h}, s.cells.lookup name = some h → h.serial < s.nextSerial

-- What has been made is kept.
structure Grows (s s' : Session σ) : Prop where
  cells  : ∀ {name h}, s.cells.lookup name = some h → s'.cells.lookup name = some h
  serial : s.nextSerial ≤ s'.nextSerial

-- What is left of a session when code has run or a request has been answered: nothing is being
-- created that was not before, and the cells of what is have not been touched.
structure Leaves (s s' : Session σ) : Prop where
  grows    : s.Grows s'
  creating : s'.creating = s.creating
  dropped  : s'.dropped = s.dropped
  busy     : ∀ {name}, name ∈ s.creating.names → s'.cells.lookup name = s.cells.lookup name
  sound    : s.Sound → s'.Sound

-- No component is being created within its own creation, and so it is with the cells.
structure Ready (s : Session σ) (running : List String) : Prop where
  sound   : s.Sound
  chain   : s.creating.names.Nodup
  cells   : running ⊆ s.creating.names
  nodup   : running.Nodup

theorem start_sound {u : σ} : (start u).Sound where
  distinct := .nil
  serials  := nofun

theorem start_ready {u : σ} : (start u).Ready [] where
  sound := start_sound
  chain := .nil
  cells := List.nil_subset _
  nodup := .nil

namespace Grows

theorem refl (s : Session σ) : s.Grows s where
  cells  := id
  serial := Nat.le_refl _

theorem trans (h : s.Grows s') (h' : s'.Grows s'') : s.Grows s'' where
  cells hl := h'.cells <| h.cells hl
  serial   := Nat.le_trans h.serial h'.serial

theorem lookup_eq_none (h : s.Grows s') (hn : s'.cells.lookup name = none) :
    s.cells.lookup name = none := by
  cases hl : s.cells.lookup name
  case none => rfl
  case some => cases hn.symm.trans (h.cells hl)

end Grows

namespace Leaves

theorem refl (s : Session σ) : s.Leaves s where
  grows    := .refl s
  creating := rfl
  dropped  := rfl
  busy _   := rfl
  sound    := id

theorem trans (h : s.Leaves s') (h' : s'.Leaves s'') : s.Leaves s'' where
  grows    := h.grows.trans h'.grows
  creating := h'.creating.trans h.creating
  dropped  := h'.dropped.trans h.dropped
  busy hn  := (h'.busy <| h.creating ▸ hn).trans (h.busy hn)
  sound hs := h'.sound <| h.sound hs

theorem write (u : σ) : s.Leaves { s with user := u } where
  grows    := ⟨id, Nat.le_refl _⟩
  creating := rfl
  dropped  := rfl
  busy _   := rfl
  sound hs := ⟨hs.distinct, hs.serials⟩

theorem ready (h : s.Leaves s') (hr : s.Ready running) : s'.Ready running where
  sound := h.sound hr.sound
  chain := h.creating ▸ hr.chain
  cells := h.creating ▸ hr.cells
  nodup := hr.nodup

end Leaves
end Session

namespace Container

variable (c : Container σ)

-- What holds at every moment of a history.
structure Upholds (m : Moment σ) : Prop where
  ready : m.session.Ready m.running
  enters : ∀ {name}, m.event = .enters name → name ∉ m.running
  fills : ∀ {name h}, m.event = .fills name h → m.session.cells.lookup name = some h
  fails : ∀ {name}, m.event = .fails name → m.session.cells.lookup name = none
  gives : ∀ {typeName h}, m.event = .gives typeName h → ∃ d, c.resolve typeName = .ok d ∧
    h.serial < m.session.nextSerial ∧
      (d.scope = .singleton → m.session.cells.lookup d.name = some h)

-- How a moment comes after another one, whose session is given.
structure Follows (s : Session σ) (m : Moment σ) : Prop where
  grows : s.Grows m.session
  fills : ∀ {name h}, m.event = .fills name h → s.cells.lookup name = none
  gives : ∀ {typeName h d}, m.event = .gives typeName h → c.resolve typeName = .ok d →
    d.scope = .prototype → s.nextSerial ≤ h.serial

-- A history between two sessions.
structure Recounts (s : Session σ) (ms : List (Moment σ)) (s' : Session σ) : Prop where
  upholds : ∀ m ∈ ms, c.Upholds m
  follows : ∀ m ∈ ms, c.Follows s m
  grows   : ∀ m ∈ ms, m.session.Grows s'
  ordered : ms.Pairwise fun m m' => c.Follows m.session m'

variable {c} {s s' s'' : Session σ} {m : Moment σ} {ms ms' : List (Moment σ)}
variable {running : List String}

theorem Follows.of_grows (hg : s.Grows s') (h : c.Follows s' m) : c.Follows s m where
  grows          := hg.trans h.grows
  fills he       := hg.lookup_eq_none <| h.fills he
  gives he hr hs := Nat.le_trans hg.serial <| h.gives he hr hs

namespace Recounts

theorem nil : c.Recounts s [] s' where
  upholds := nofun
  follows := nofun
  grows   := nofun
  ordered := .nil

theorem append (h : c.Recounts s ms s') (h' : c.Recounts s' ms' s'') (hg : s.Grows s')
    (hg' : s'.Grows s'') : c.Recounts s (ms ++ ms') s'' where
  upholds m hm := (List.mem_append.mp hm).elim (h.upholds m) (h'.upholds m)
  follows m hm := (List.mem_append.mp hm).elim (h.follows m)
    fun hm => .of_grows hg <| h'.follows m hm
  grows m hm := (List.mem_append.mp hm).elim (fun hm => (h.grows m hm).trans hg') (h'.grows m)
  ordered := List.pairwise_append.mpr
    ⟨h.ordered, h'.ordered, fun m hm m' hm' => .of_grows (h.grows m hm) <| h'.follows m' hm'⟩

theorem cons (hu : c.Upholds m) (hf : c.Follows s m) (h : c.Recounts m.session ms s')
    (hg : m.session.Grows s') : c.Recounts s (m :: ms) s' where
  upholds := List.forall_mem_cons.mpr ⟨hu, h.upholds⟩
  follows := List.forall_mem_cons.mpr ⟨hf, fun m hm => .of_grows hf.grows <| h.follows m hm⟩
  grows   := List.forall_mem_cons.mpr ⟨hg, h.grows⟩
  ordered := List.pairwise_cons.mpr ⟨h.follows, h.ordered⟩

theorem single (hu : c.Upholds m) (hf : c.Follows s m) : c.Recounts s [m] m.session :=
  .cons hu hf .nil (.refl _)

end Recounts

-- A step of code says nothing of cells.
theorem upholds_step (hr : s.Ready running) : c.Upholds ⟨.step, s, running⟩ where
  ready  := hr
  enters := nofun
  fills  := nofun
  fails  := nofun
  gives  := nofun

theorem follows_step : c.Follows s ⟨.step, s, running⟩ where
  grows := .refl s
  fills := nofun
  gives := nofun

theorem Recounts.step (hr : s.Ready running) (h : c.Recounts s ms s') (hg : s.Grows s') :
    c.Recounts s (⟨.step, s, running⟩ :: ms) s' :=
  .cons (upholds_step hr) follows_step h hg

-- What is asked of the services of a container and of their histories.
structure Regulates (c : Container σ) (services : Services σ) (inner : Chronicle σ) : Prop where
  get : ∀ typeName (s : Session σ), s.Leaves (services.get typeName s).2
  invoke : ∀ h caller method args (s : Session σ),
    s.Leaves (services.invoke h caller method args s).2
  getHistory : ∀ {s running} typeName, s.Ready running →
    c.Recounts s (inner.get running typeName s) (services.get typeName s).2
  invokeHistory : ∀ {s running} h caller method args, s.Ready running →
    c.Recounts s (inner.invoke running h caller method args s)
      (services.invoke h caller method args s).2

end Container

section Code

variable {c : Container σ} {services : Services σ} {inner : Chronicle σ} {s : Session σ}
variable {running : List String}

theorem Container.Recounts.continued {β : Type} {r : Except Halt β × Session σ}
    {next : Except Failure β → Session σ → Except Halt α × Session σ}
    {nextHistory : Except Failure β → Session σ → List (Moment σ)} {ms : List (Moment σ)}
    (h : c.Recounts s ms r.2) (hl : s.Leaves r.2) (hr : s.Ready running)
    (hn : ∀ a (t : Session σ), t.Leaves (next a t).2)
    (hh : ∀ a {t : Session σ}, t.Ready running → c.Recounts t (nextHistory a t) (next a t).2) :
    c.Recounts s (ms ++ Act.continued r (fun _ => []) nextHistory)
      (Act.continued r (fun s => (.error .exhausted, s)) next).2 := by
  obtain ⟨r, t⟩ := r
  cases r
  case ok => exact h.append (hh _ <| hl.ready hr) hl.grows (hn _ t).grows
  case error halt =>
    cases halt
    case failed    => exact h.append (hh _ <| hl.ready hr) hl.grows (hn _ t).grows
    case exhausted => exact h.append .nil hl.grows (.refl t)

namespace Behaviour

-- Code only changes the session by what it is answered, apart from its own state.
theorem leaves (hs : c.Regulates services inner) (b : Action σ α) (s : Session σ) :
    s.Leaves (b.runPlain services s).2 :=
  b.runPlain_keeps services (P := (s.Leaves ·)) (fun _ _ hl => hl.trans (.write _))
    (fun _ _ hl => hl.trans (hs.get ..)) (fun _ _ _ _ _ hl => hl.trans (hs.invoke ..)) (.refl s)

theorem recounts (hs : c.Regulates services inner) (b : Action σ α) (hr : s.Ready running) :
    c.Recounts s (b.history services inner running s) (b.runPlain services s).2 := by
  induction b generalizing s
  case result       => exact .single (Container.upholds_step hr) Container.follows_step
  case fail         => exact .single (Container.upholds_step hr) Container.follows_step
  case ask r _ _    => exact Empty.elim r
  case read next hi => exact .step hr (hi _ hr) (leaves hs (next s.user) s).grows
  case write u next hi =>
    have hw : s.Leaves { s with user := u } := .write u
    have hl := leaves hs next { s with user := u }
    have hh := (Container.Recounts.nil (s := s)).append (hi (hw.ready hr)) hw.grows hl.grows
    exact .step hr hh (hw.trans hl).grows
  case get typeName next hi =>
    have hl := leaves hs (get typeName next) s
    refine .step hr ?_ hl.grows
    rw [runPlain_get]
    exact (hs.getHistory typeName hr).continued (hs.get typeName s) hr
      (fun a => leaves hs (next a)) hi
  case invoke h caller method args next hi =>
    have hl := leaves hs (invoke h caller method args next) s
    refine .step hr ?_ hl.grows
    rw [runPlain_invoke]
    exact (hs.invokeHistory h caller method args hr).continued (hs.invoke h caller method args s) hr
      (fun a => leaves hs (next a)) hi

end Behaviour
end Code
end Interpose
