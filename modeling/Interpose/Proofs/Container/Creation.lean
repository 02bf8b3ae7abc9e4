import Mathlib.Data.List.Nodup
import Interpose.Proofs.Container.Discipline

namespace Interpose

variable {σ : Type}

namespace Session

variable {s t : Session σ} {chain : CreationChain} {name : String} {h : Handle}

theorem grows_creating (s : Session σ) (chain : CreationChain) :
    s.Grows { s with creating := chain } where
  cells  := id
  serial := Nat.le_refl _

theorem Ready.start {running : List String} (hr : s.Ready running)
    (hs : s.creating.start name = .ok chain) :
    Ready { s with creating := chain } running ∧
      Ready { s with creating := chain } (running ++ [name]) ∧ name ∉ running := by
  have hc : chain.names.Nodup := CreationChain.nodup_of_start hs hr.chain
  obtain ⟨hn, rfl⟩ := CreationChain.start_eq_ok.mp hs
  have hr' : name ∉ running := fun h => hn (hr.cells h)
  have hs : Sound { s with creating := ⟨s.creating.names ++ [name]⟩ } :=
    ⟨hr.sound.distinct, hr.sound.serials⟩
  have hsub : running ⊆ s.creating.names ++ [name] :=
    fun n h => List.mem_append_left _ (hr.cells h)
  have hsub' := List.append_subset.mpr ⟨hsub, List.subset_append_right s.creating.names [name]⟩
  have hnr : (running ++ [name]).Nodup := by simpa using hr.nodup.concat hr'
  exact ⟨⟨hs, hc, hsub, hr.nodup⟩, ⟨hs, hc, hsub', hnr⟩, hr'⟩

-- What was begun last has come to an end.
theorem Leaves.finish (hs : s.creating.start name = .ok chain)
    (hl : Leaves { s with creating := chain } t) :
    s.Leaves { t with creating := t.creating.finish name } where
  grows    := ⟨hl.grows.cells, hl.grows.serial⟩
  creating := hl.creating ▸ CreationChain.finish_start hs
  dropped  := hl.dropped
  busy hn  := by
    obtain ⟨_, rfl⟩ := CreationChain.start_eq_ok.mp hs
    exact hl.busy (List.mem_append_left _ hn)
  sound hs := hl.sound ⟨hs.distinct, hs.serials⟩ |> fun h => ⟨h.distinct, h.serials⟩

theorem Sound.fill (hs : t.Sound) (hn : t.cells.lookup name = none) (hh : h.serial < t.nextSerial) :
    Sound { t with cells := (name, h) :: t.cells } where
  distinct := by
    refine List.nodup_cons.mpr ⟨fun hm => ?_, hs.distinct⟩
    obtain ⟨e, he, rfl⟩ := List.mem_map.mp hm
    simpa using List.lookup_eq_none_iff.mp hn e he
  serials {n h'} hl := by
    by_cases he : n = name
    case pos =>
      simp only [he, List.lookup_cons_self] at hl
      cases hl
      exact hh
    case neg =>
      simp only [List.lookup_cons, beq_false_of_ne he] at hl
      exact hs.serials hl

theorem Grows.fill (hn : t.cells.lookup name = none) :
    t.Grows { t with cells := (name, h) :: t.cells } where
  cells {n h'} hl := by
    have he : n ≠ name := fun he => nomatch (he ▸ hl).symm.trans hn
    simpa [List.lookup_cons, beq_false_of_ne he] using hl
  serial := Nat.le_refl _

theorem Leaves.takeSerial (t : Session σ) : t.Leaves { t with nextSerial := t.nextSerial + 1 } where
  grows    := ⟨id, Nat.le_succ _⟩
  creating := rfl
  dropped  := rfl
  busy _   := rfl
  sound hs := ⟨hs.distinct, fun hl => Nat.lt_succ_of_lt <| hs.serials hl⟩

-- A cell that was empty has been filled, of a component that is not being created any more.
theorem Leaves.fill (hl : s.Leaves t) (hb : name ∉ s.creating.names)
    (hn : t.cells.lookup name = none) (hh : h.serial < t.nextSerial) :
    s.Leaves { t with cells := (name, h) :: t.cells } where
  grows    := hl.grows.trans (.fill hn)
  creating := hl.creating
  dropped  := hl.dropped
  busy {n} hm := by
    have he : n ≠ name := fun he => hb (he ▸ hm)
    rw [List.lookup_cons, beq_false_of_ne he]
    exact hl.busy hm
  sound hs := (hl.sound hs).fill hn hh

end Session

namespace Container

variable {c : Container σ} {i : Instantiator σ} {services : Services σ} {inner : Chronicle σ}
variable {d : Definition σ} {s t : Session σ} {h : Handle} {typeName : String}

section Leaves

-- Apart from the code, making an instance only takes a serial number.
theorem create_keeps {P : Session σ → Prop} (hc : c.MadeBy i)
    (hp : P ((i.code c.providers d).runPlain services s).2)
    (ht : ∀ t, P t → P { t with nextSerial := t.nextSerial + 1 }) :
    P (c.create services d s).2 := by
  rcases hr : (i.code c.providers d).runPlain services s with ⟨_ | _, t⟩ <;> rw [hr] at hp
  case ok => exact create_of_ok hc hr ▸ ht t hp
  case error halt =>
    cases halt
    case failed    => exact create_of_failed hc hr ▸ hp
    case exhausted => exact create_of_exhausted hc hr ▸ hp

theorem create_leaves (hs : c.Regulates services inner) (hc : c.MadeBy i) (d : Definition σ)
    (s : Session σ) : s.Leaves (c.create services d s).2 :=
  create_keeps hc (Behaviour.leaves hs _ s) fun t hl => hl.trans (.takeSerial t)

theorem create_eq_ok (hc : c.MadeBy i) (hr : c.create services d s = (.ok h, t)) :
    ∃ target u, (i.code c.providers d).runPlain services s = (.ok target, u) ∧
      h = ⟨d.name, target, i.route d, u.nextSerial⟩ ∧
      t = { u with nextSerial := u.nextSerial + 1 } := by
  rcases hr' : (i.code c.providers d).runPlain services s with ⟨_ | target, u⟩
  case ok =>
    cases hr.symm.trans (create_of_ok hc hr')
    exact ⟨target, u, rfl, rfl, rfl⟩
  case error halt =>
    cases halt
    case failed    => cases hr.symm.trans (create_of_failed hc hr')
    case exhausted => cases hr.symm.trans (create_of_exhausted hc hr')

-- The serial number of a new instance is taken last of all.
theorem create_serial (hc : c.MadeBy i) (hr : c.create services d s = (.ok h, t)) :
    ((i.code c.providers d).runPlain services s).2.nextSerial = h.serial ∧
      t.nextSerial = h.serial + 1 := by
  obtain ⟨_, _, hr', rfl, rfl⟩ := create_eq_ok hc hr
  exact ⟨congrArg (·.2.nextSerial) hr', rfl⟩

variable {chain : CreationChain}

-- The cell of a singleton stays empty while its instance is being made.
theorem create_lookup (hs : c.Regulates services inner) (hc : c.MadeBy i)
    (hd : d.scope = .singleton) (hn : shared? d s = none)
    (hst : s.creating.start d.name = .ok chain) :
    (c.create services d { s with creating := chain }).2.cells.lookup d.name = none := by
  have hl := create_leaves hs hc d { s with creating := chain }
  obtain ⟨_, rfl⟩ := CreationChain.start_eq_ok.mp hst
  rw [shared?_of_singleton hd] at hn
  exact (hl.busy <| List.mem_append_right _ List.mem_cons_self).trans hn

theorem tracked_leaves (hs : c.Regulates services inner) (hc : c.MadeBy i)
    (hn : shared? d s = none) : s.Leaves (tracked d.name (c.make services d) s).2 := by
  cases hst : s.creating.start d.name
  case error =>
    rw [tracked_of_cycle hst]
    exact .refl s
  case ok chain =>
    rw [tracked_of_ok hst]
    have hf := (create_leaves hs hc d { s with creating := chain }).finish hst
    cases hd : d.scope
    case prototype => exact make_of_prototype hd ▸ hf
    case singleton =>
      have hl := create_lookup hs hc hd hn hst
      rcases hr : c.create services d { s with creating := chain } with ⟨_ | h, t⟩ <;>
        rw [hr] at hf hl
      case error => exact make_of_error hd hr ▸ hf
      case ok    =>
        rw [make_of_ok hd hr]
        have hh := (create_serial hc hr).right
        exact hf.fill (CreationChain.start_eq_ok.mp hst).left hl (hh ▸ Nat.lt_succ_self _)

theorem get_leaves (hs : c.Regulates services inner) (hc : c.MadeBy i) (typeName : String)
    (s : Session σ) : s.Leaves (c.get services typeName s).2 := by
  cases hr : c.resolve typeName
  case error => exact get_of_unresolved hr ▸ .refl s
  case ok d =>
    cases hn : shared? d s
    case some => exact get_of_shared hr hn ▸ .refl s
    case none =>
      rw [get_of_not_shared hr hn]
      exact tracked_leaves hs hc hn

-- What is given for a singleton is in its cell, and what is given for a prototype is new.
theorem get_gives (hs : c.Regulates services inner) (hc : c.MadeBy i) (hss : s.Sound)
    (hr : c.resolve typeName = .ok d) (hg : c.get services typeName s = (.ok h, t)) :
    h.serial < t.nextSerial ∧ (d.scope = .singleton → t.cells.lookup d.name = some h) ∧
      (d.scope = .prototype → s.nextSerial ≤ h.serial) := by
  cases hn : shared? d s
  case some h' =>
    cases hg.symm.trans (get_of_shared hr hn)
    have ⟨hd, hl⟩ := shared?_eq_some.mp hn
    exact ⟨hss.serials hl, fun _ => hl, fun hp => nomatch hd.symm.trans hp⟩
  case none =>
    rw [get_of_not_shared hr hn] at hg
    obtain ⟨chain, u, hst, hm, rfl⟩ := tracked_eq_ok hg
    obtain ⟨v, hv, hp, hsi⟩ := make_eq_ok hm
    have ⟨hu, hv'⟩ := create_serial hc hv
    have hl := Behaviour.leaves hs (i.code c.providers d) { s with creating := chain }
    refine ⟨?_, fun hd => ?_, fun hd => hu ▸ hl.grows.serial⟩
    case refine_1 =>
      cases hd : d.scope
      case prototype => simp [hp hd, hv']
      case singleton => simp [hsi hd, hv']
    case refine_2 => simp [hsi hd]

end Leaves
section Recounts

variable {running : List String} {chain : CreationChain}

theorem Recounts.widen {s' t' : Session σ} {ms : List (Moment σ)} (h : c.Recounts s' ms t')
    (hs : s.Grows s') (ht : t'.Grows t) : c.Recounts s ms t where
  upholds   := h.upholds
  follows m hm := .of_grows hs <| h.follows m hm
  grows m hm   := (h.grows m hm).trans ht
  ordered   := h.ordered

theorem code_grows_create (hc : c.MadeBy i) (d : Definition σ) (s : Session σ) :
    ((i.code c.providers d).runPlain services s).2.Grows (c.create services d s).2 :=
  create_keeps hc (.refl _) fun t hg => hg.trans (Session.Leaves.takeSerial t).grows

theorem create_grows_make (hd : d.scope = .singleton)
    (hl : (c.create services d s).2.cells.lookup d.name = none) :
    (c.create services d s).2.Grows (c.make services d s).2 := by
  rcases hr : c.create services d s with ⟨_ | h, t⟩ <;> rw [hr] at hl
  case error => rw [make_of_error hd hr]; exact .refl t
  case ok    => rw [make_of_ok hd hr]; exact .fill hl

-- The end of the initialization of a cell, which was empty until then.
theorem filling_recounts (hd : d.scope = .singleton)
    (hl : (c.create services d s).2.cells.lookup d.name = none)
    (hr : (c.create services d s).2.Ready running) (hc : c.MadeBy i) :
    c.Recounts (c.create services d s).2 (filling d.name running (c.make services d s))
      (c.make services d s).2 := by
  rcases hcr : c.create services d s with ⟨_ | h, u⟩ <;> rw [hcr] at hl hr
  case error halt =>
    rw [make_of_error hd hcr]
    cases halt
    case exhausted => exact .nil
    case failed    =>
      exact .single ⟨hr, nofun, nofun, fun he => by cases he; exact hl, nofun⟩
        ⟨.refl u, nofun, nofun⟩
  case ok =>
    rw [make_of_ok hd hcr]
    have hh : h.serial < u.nextSerial := (create_serial hc hcr).right ▸ Nat.lt_succ_self _
    have hf := hr.sound.fill hl hh
    refine .single ⟨⟨hf, hr.chain, hr.cells, hr.nodup⟩, nofun, fun he => ?_, nofun, nofun⟩
      ⟨.fill hl, fun he => ?_, nofun⟩
    case refine_1 =>
      cases he
      exact List.lookup_cons_self
    case refine_2 =>
      cases he
      exact hl

-- Up to the point where a prototype takes its serial number, or a singleton is in its cell.
theorem makeHistory_recounts (hs : c.Regulates services inner) (hc : c.MadeBy i)
    (hr : s.Ready running) (hn : shared? d s = none) (hst : s.creating.start d.name = .ok chain) :
    ∃ t, c.Recounts { s with creating := chain }
        (c.makeHistory i services inner running d { s with creating := chain }) t ∧
      Session.Grows { s with creating := chain } t ∧
      t.Grows (c.make services d { s with creating := chain }).2 ∧
      ∀ {h}, (c.make services d { s with creating := chain }).1 = .ok h → d.scope = .prototype →
        t.nextSerial ≤ h.serial := by
  have ⟨hro, hri, hm⟩ := hr.start hst
  have hg : Session.Grows
      ((i.code c.providers d).runPlain services { s with creating := chain }).2 _ :=
    code_grows_create hc d { s with creating := chain }
  cases hd : d.scope
  case prototype =>
    rw [makeHistory_of_prototype hd, make_of_prototype hd]
    refine ⟨_, Behaviour.recounts hs _ hro, (Behaviour.leaves hs _ _).grows, hg, ?_⟩
    intro h hh _
    exact Nat.le_of_eq (create_serial hc (Prod.ext hh rfl)).left
  case singleton =>
    have hl := create_leaves hs hc d { s with creating := chain }
    have hf := filling_recounts hd (create_lookup hs hc hd hn hst) (hl.ready hri) hc
    have hgm := create_grows_make hd (create_lookup hs hc hd hn hst)
    refine ⟨_, ?_, hl.grows.trans hgm, .refl _, nofun⟩
    rw [makeHistory_of_singleton hd]
    refine .cons ⟨hro, fun he => ?_, nofun, nofun, nofun⟩ ⟨.refl _, nofun, nofun⟩ ?_
      (hl.grows.trans hgm)
    case refine_1 =>
      cases he
      exact hm
    case refine_2 =>
      exact ((Behaviour.recounts hs _ hri).widen (.refl _) hg).append hf hl.grows hgm

theorem giving_recounts (hs : c.Regulates services inner) (hc : c.MadeBy i) (hr : s.Ready running)
    (hd : c.resolve typeName = .ok d) (hg : t.Grows (c.get services typeName s).2)
    (hp : ∀ {h}, (c.get services typeName s).1 = .ok h → d.scope = .prototype →
      t.nextSerial ≤ h.serial) :
    c.Recounts t (giving typeName running (c.get services typeName s))
      (c.get services typeName s).2 := by
  have hl := get_leaves hs hc typeName s
  rcases hr' : c.get services typeName s with ⟨_ | h, u⟩ <;> rw [hr'] at hl hg hp
  case error => exact .nil
  case ok =>
    have ⟨hh, hsi, _⟩ := get_gives hs hc hr.sound hd hr'
    refine .single ⟨hl.ready hr, nofun, nofun, nofun, fun he => ?_⟩ ⟨hg, nofun, fun he hd' => ?_⟩
    case refine_1 =>
      cases he
      exact ⟨d, hd, hh, hsi⟩
    case refine_2 =>
      cases he
      cases hd.symm.trans hd'
      exact hp rfl

theorem get_recounts (hs : c.Regulates services inner) (hc : c.MadeBy i) (typeName : String)
    (hr : s.Ready running) : c.Recounts s (c.getHistory i services inner running typeName s)
      (c.get services typeName s).2 := by
  cases hd : c.resolve typeName
  case error => exact getHistory_of_unresolved hd ▸ .nil
  case ok d =>
    cases hn : shared? d s
    case some =>
      have hl := get_leaves hs hc typeName s
      rw [getHistory_of_shared hd hn]
      refine giving_recounts hs hc hr hd hl.grows fun _ hp => ?_
      cases (shared?_eq_some.mp hn).left.symm.trans hp
    case none =>
      cases hst : s.creating.start d.name
      case error => exact getHistory_of_cycle hd hn hst ▸ .nil
      case ok chain =>
        obtain ⟨t, hm, hg, hg', hp⟩ := makeHistory_recounts hs hc hr hn hst
        have he : c.get services typeName s = _ :=
          (get_of_not_shared hd hn).trans (tracked_of_ok hst)
        have hgt : t.Grows (c.get services typeName s).2 := by
          rw [he]
          exact hg'.trans (Session.grows_creating ..)
        have he' := congrArg Prod.fst he
        have hgi := giving_recounts hs hc hr hd hgt fun hh => hp <| he'.symm.trans hh
        rw [getHistory_of_begun hd hn hst]
        exact (hm.widen (Session.grows_creating s chain) (.refl t)).append hgi
          ((Session.grows_creating s chain).trans hg) hgt

end Recounts

-- However many levels deep calls may go, the container keeps to its discipline.
theorem regulates (hc : c.MadeBy i) (depth : Nat) :
    c.Regulates (c.services depth) (c.chronicle i depth) := by
  induction depth
  case zero =>
    exact ⟨fun _ s => .refl s, fun _ _ _ _ s => .refl s, fun _ _ => .nil, fun _ _ _ _ _ => .nil⟩
  case succ depth hi =>
    constructor
    case get =>
      intro typeName s
      change s.Leaves (c.getWhileAlive (c.services depth) typeName s).2
      cases hd : s.dropped
      case true  => exact getWhileAlive_of_dropped hd ▸ .refl s
      case false => exact getWhileAlive_of_alive hd ▸ get_leaves hi hc typeName s
    case invoke =>
      intro h caller method args s
      change s.Leaves (c.invoke (c.services depth) h caller method args s).2
      rw [c.invoke_eq_code _ i hc]
      exact Behaviour.leaves hi _ s
    case getHistory =>
      intro s running typeName hr
      change c.Recounts s _ (c.getWhileAlive (c.services depth) typeName s).2
      cases hd : s.dropped
      case true  => exact chronicle_get_of_dropped hd ▸ .nil
      case false =>
        rw [chronicle_get_of_alive hd, getWhileAlive_of_alive hd]
        exact get_recounts hi hc typeName hr
    case invokeHistory =>
      intro s running h caller method args hr
      change c.Recounts s _ (c.invoke (c.services depth) h caller method args s).2
      rw [c.invoke_eq_code _ i hc]
      exact Behaviour.recounts hi _ hr

end Container
end Interpose
