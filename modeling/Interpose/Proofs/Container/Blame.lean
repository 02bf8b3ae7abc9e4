import Interpose.Proofs.Container.Search

namespace Interpose

variable {σ α : Type}

namespace Failure

-- The failure as seen from outside of creations within one another, the outermost first.
def within (names : List String) (f : Failure) : Failure :=
  { f with creating := names ++ f.creating }

theorem chain_within (names : List String) (f : Failure) :
    (f.within names).chain = names.map creationText ++ f.chain := by
  simp [chain, within]

end Failure

namespace Container

-- On a request for a type the creation of a component begins.
structure Begins (c : Container σ) (s : Session σ) (typeName : String) (d : Definition σ)
    (s' : Session σ) : Prop where
  resolved : c.resolve typeName = .ok d
  unmade   : shared? d s = none
  free     : d.name ∉ s.creating.names
  begun    : s' = { s with creating := ⟨s.creating.names ++ [d.name]⟩ }

-- How a request fails, with room for calls so many levels deep: which components are being created,
-- the outermost first, when a step of the last of them fails, in which session that step begins and
-- what its failure is.
inductive Breaks (c : Container σ) :
    Nat → Session σ → String → List (Definition σ) → Session σ → Failure → Prop
  -- No component is found, or several are.
  | unresolved {n : Nat} {s : Session σ} {typeName : String} {e : ContainerError} :
    c.resolve typeName = .error e → Breaks c n s typeName [] s (.container e)
  -- The component is being created already.
  | circular {n : Nat} {s : Session σ} {typeName : String} {d : Definition σ}
    {cycle : List String} : c.resolve typeName = .ok d → shared? d s = none →
      s.creating.start d.name = .error cycle →
        Breaks c (n + 1) s typeName [] s (.container (.circularDependency cycle))
  -- All fields have been filled, and the code of the component fails.
  | allocation {n : Nat} {s s' t t' : Session σ} {typeName : String} {d : Definition σ}
    {w : Wiring} {g : Failure} : c.Begins s typeName d s' →
      c.wiring (c.services n) d.type.injectedFields s' = (.ok w, t) →
        (d.allocator w).runPlain (c.services n) t = (.error (.failed g), t') →
          Breaks c (n + 1) s typeName [d] t g
  | initialization {n : Nat} {s s' s'' t t' : Session σ} {typeName : String} {d : Definition σ}
    {w : Wiring} {target : Value} {init : InitializationCode σ} {g : Failure} :
      c.Begins s typeName d s' →
        c.wiring (c.services n) d.type.injectedFields s' = (.ok w, s'') →
          (d.allocator w).runPlain (c.services n) s'' = (.ok target, t) →
            d.initializer = some init →
              (init target).runPlain (c.services n) t = (.error (.failed g), t') →
                Breaks c (n + 1) s typeName [d] t g
  -- What is to be put into a field cannot be had.
  | field {n : Nat} {s s' s'' t : Session σ} {typeName : String} {d : Definition σ}
    {path : List (Definition σ)} {fs gs : List Field} {f : Field} {w : Wiring} {g : Failure} :
      c.Begins s typeName d s' → d.type.injectedFields = fs ++ f :: gs →
        c.wiring (c.services n) fs s' = (.ok w, s'') → Breaks c n s'' f.fieldType path t g →
          Breaks c (n + 1) s typeName (d :: path) t g

variable {c : Container σ} {services : Services σ} {d : Definition σ} {s s' t u : Session σ}
variable {f g : Failure} {n : Nat} {typeName : String} {path : List (Definition σ)}

section Steps

variable {fs : List Field} {w : Wiring}

theorem Begins.of_start {chain : CreationChain} (hr : c.resolve typeName = .ok d)
    (hn : shared? d s = none) (hst : s.creating.start d.name = .ok chain) :
    c.Begins s typeName d { s with creating := chain } := by
  obtain ⟨hf, rfl⟩ := CreationChain.start_eq_ok.mp hst
  exact ⟨hr, hn, hf, rfl⟩

theorem Begins.creating (hb : c.Begins s typeName d t) :
    t.creating.names = s.creating.names ++ [d.name] := by
  rw [hb.begun]

-- While it is being created, a component is not made by anything else.
theorem Begins.unmade_of_leaves (hb : c.Begins s typeName d t) (hl : t.Leaves u) :
    shared? d u = none := by
  cases hd : d.scope
  case prototype => rw [shared?, hd]
  case singleton =>
    have hm : d.name ∈ t.creating.names := hb.creating ▸ List.mem_append_cons_self
    rw [shared?_of_singleton hd, hl.busy hm, hb.begun]
    exact shared?_of_singleton hd ▸ hb.unmade

-- The first field that cannot be filled ends the wiring.
theorem wiring_eq_error {halt : Halt} : c.wiring services fs s = (.error halt, s') ↔
    ∃ gs f hs w t, fs = gs ++ f :: hs ∧ c.wiring services gs s = (.ok w, t) ∧
      c.providers.get services f.fieldType t = (.error halt, s') := by
  constructor
  case mp =>
    intro h
    induction fs using List.reverseRecOn generalizing s'
    case nil => cases h
    case append_singleton fs f hi =>
      rw [wiring_snoc] at h
      rcases Step.bind_eq_error.mp h with h | ⟨w, t, hw, h⟩
      case inl =>
        obtain ⟨gs, f', hs, w, t, rfl, hw, hf⟩ := hi h
        exact ⟨gs, f', hs ++ [f], w, t, by simp, hw, hf⟩
      case inr =>
        rcases Step.bind_eq_error.mp h with h | ⟨_, _, _, h⟩
        case inl => exact ⟨fs, f, [], w, t, rfl, hw, h⟩
        case inr => cases h
  case mpr =>
    rintro ⟨gs, f, hs, w, t, rfl, hw, hf⟩
    rw [wiring_append, Step.bind_of_ok hw, List.foldlM_cons]
    exact Step.bind_of_error <| Step.bind_of_error hf

-- Once all fields have been filled, only the code of the component can fail.
theorem assembling_eq_error {halt : Halt} :
    (d.assembling w).runPlain services s = (.error halt, s') ↔
      (d.allocator w).runPlain services s = (.error halt, s') ∨
      ∃ target t init, (d.allocator w).runPlain services s = (.ok target, t) ∧
        d.initializer = some init ∧ (init target).runPlain services t = (.error halt, s') := by
  rw [Definition.assembling, Behaviour.runPlain_bind, Step.bind_eq_error]
  refine or_congr_right ⟨?_, ?_⟩
  case refine_1 =>
    rintro ⟨target, t, ha, h⟩
    rw [Behaviour.runPlain_bind] at h
    rcases Step.bind_eq_error.mp h with h | ⟨_, _, _, h⟩
    case inr => cases h
    case inl =>
      rw [Definition.preparing] at h
      cases hi : d.initializer <;> rw [hi] at h
      case none      => cases h
      case some init => exact ⟨target, t, init, ha, rfl, h⟩
  case refine_2 =>
    rintro ⟨target, t, init, ha, hi, h⟩
    refine ⟨target, t, ha, ?_⟩
    rw [Behaviour.runPlain_bind, Definition.preparing, hi]
    exact Step.bind_of_error h

theorem code_eq_error {halt : Halt} :
    (d.code c.providers).runPlain services s = (.error halt, s') ↔
      c.wiring services d.type.injectedFields s = (.error halt, s') ∨
      ∃ w t, c.wiring services d.type.injectedFields s = (.ok w, t) ∧
        (d.assembling w).runPlain services t = (.error halt, s') := by
  rw [runPlain_code]
  exact Step.bind_eq_error

theorem create_failed_iff (hc : c.MadeBy .plain) :
    c.create services d s = (.error (.failed f), s') ↔
      ∃ g, (d.code c.providers).runPlain services s = (.error (.failed g), s') ∧
        f = g.whileCreating d.name := by
  constructor
  case mpr =>
    rintro ⟨g, hr, rfl⟩
    exact create_of_failed hc hr
  case mp =>
    intro h
    rcases hr : (d.code c.providers).runPlain services s with ⟨(g | _) | target, t⟩
    case error.failed    => cases h.symm.trans (create_of_failed hc hr); exact ⟨g, rfl, rfl⟩
    case error.exhausted => cases h.symm.trans (create_of_exhausted hc hr)
    case ok              => cases h.symm.trans (create_of_ok hc hr)

theorem make_eq_error {halt : Halt} :
    c.make services d s = (.error halt, s') ↔ c.create services d s = (.error halt, s') := by
  cases hd : d.scope
  case prototype => rw [make_of_prototype hd]
  case singleton =>
    refine ⟨fun h => ?_, make_of_error hd⟩
    rcases hr : c.create services d s with ⟨_ | _, t⟩
    case error => exact (make_of_error hd hr).symm.trans h
    case ok    => cases h.symm.trans (make_of_ok hd hr)

end Steps

section Requests

theorem Begins.get_failed (hc : c.MadeBy .plain) (hb : c.Begins s typeName d t)
    (hr : (d.code c.providers).runPlain services t = (.error (.failed g), u)) :
    c.get services typeName s = (.error (.failed (g.whileCreating d.name)),
      { u with creating := u.creating.finish d.name }) := by
  have hst := CreationChain.start_eq_ok.mpr ⟨hb.free, rfl⟩
  have hm := make_eq_error.mpr <| (create_failed_iff hc).mpr ⟨g, hr, rfl⟩
  rw [hb.begun] at hm
  rw [get_of_not_shared hb.resolved hb.unmade, tracked_of_ok hst, hm]

-- A request fails before a component has been begun, or the code that makes it fails.
theorem get_failed_cases (hc : c.MadeBy .plain)
    (hg : c.get services typeName s = (.error (.failed f), s')) :
    (∃ e, c.resolve typeName = .error e ∧ f = .container e) ∨
    (∃ d cycle, c.resolve typeName = .ok d ∧ shared? d s = none ∧
      s.creating.start d.name = .error cycle ∧ f = .container (.circularDependency cycle)) ∨
    ∃ d t g u, c.Begins s typeName d t ∧
      (d.code c.providers).runPlain services t = (.error (.failed g), u) ∧
      f = g.whileCreating d.name ∧ s' = { u with creating := u.creating.finish d.name } := by
  cases hr : c.resolve typeName
  case error e =>
    cases hg.symm.trans (get_of_unresolved hr)
    exact .inl ⟨e, rfl, rfl⟩
  case ok d =>
    cases hn : shared? d s
    case some => cases hg.symm.trans (get_of_shared hr hn)
    case none =>
      rw [get_of_not_shared hr hn] at hg
      cases hst : s.creating.start d.name
      case error cycle =>
        cases hg.symm.trans (tracked_of_cycle hst)
        exact .inr <| .inl ⟨d, cycle, rfl, hn, hst, rfl⟩
      case ok chain =>
        rw [tracked_of_ok hst] at hg
        obtain ⟨hf, hs⟩ := Prod.mk.inj hg
        obtain ⟨g, hcode, rfl⟩ := (create_failed_iff hc).mp <|
          make_eq_error.mp <| Prod.ext hf rfl
        exact .inr <| .inr ⟨d, _, g, _, .of_start hr hn hst, hcode, rfl, hs.symm⟩

-- What is put into a field fails to be there as a request for it fails, which takes a level of
-- calls.
theorem providers_get_failed_iff (ha : s.dropped = false) :
    c.providers.get (c.services (n + 1)) typeName s = (.error (.failed f), s') ↔
      c.get (c.services n) typeName s = (.error (.failed f), s') := by
  rw [providers_get_eq ha, map_eq_pure_bind, Step.bind_eq_error]
  refine or_iff_left ?_
  rintro ⟨_, _, _, h⟩
  cases h

end Requests

section Blame

theorem Begins.dropped (hb : c.Begins s typeName d t) : t.dropped = s.dropped := by
  rw [hb.begun]

theorem leaves_of_wiring (hc : c.MadeBy .plain) {fs : List Field} {w : Wiring}
    (hw : c.wiring (c.services n) fs s = (.ok w, t)) : s.Leaves t := by
  have hl := wiring_leaves (regulates hc n) fs s
  rwa [hw] at hl

theorem leaves_of_runPlain (hc : c.MadeBy .plain) {b : Action σ α} {r : Except Halt α}
    (hr : b.runPlain (c.services n) s = (r, t)) : s.Leaves t := by
  have hl := Behaviour.leaves (regulates hc n) b s
  rwa [hr] at hl

-- A failure is that of the step which fails, under the names of the components that are being
-- created then, and none of these is kept. The induction is on the depth of calls, of which each
-- component on the way takes a level.
theorem breaks_of_providers_get (hc : c.MadeBy .plain) (ha : s.dropped = false)
    (hg : c.providers.get (c.services n) typeName s = (.error (.failed f), s')) :
    ∃ path t g, c.Breaks n s typeName path t g ∧ f = g.within (path.map (·.name)) ∧
      ∀ d ∈ path, shared? d s' = none := by
  induction n generalizing typeName s s' f
  case zero =>
    cases hr : c.resolve typeName
    case error =>
      cases hg.symm.trans (providers_get_of_unresolved hr)
      exact ⟨[], s, _, .unresolved hr, rfl, nofun⟩
    case ok =>
      rw [providers_get hr] at hg
      cases hg
  case succ n hi =>
    rcases get_failed_cases hc ((providers_get_failed_iff ha).mp hg) with
      ⟨_, hr, rfl⟩ | ⟨_, _, hr, hn, hst, rfl⟩ | ⟨d, t, g, u, hb, hcode, rfl, rfl⟩
    case inl          => exact ⟨[], s, _, .unresolved hr, rfl, nofun⟩
    case inr.inl      => exact ⟨[], s, _, .circular hr hn hst, rfl, nofun⟩
    case inr.inr =>
      have hn : shared? d u = none := hb.unmade_of_leaves (leaves_of_runPlain hc hcode)
      rcases code_eq_error.mp hcode with hw | ⟨w, t', hw, hcode⟩
      case inl =>
        obtain ⟨fs, f, gs, w, t', hfs, hw', hf⟩ := wiring_eq_error.mp hw
        have ha' := (leaves_of_wiring hc hw').dropped.trans <| hb.dropped.trans ha
        obtain ⟨path, v, g, hbr, rfl, hp⟩ := hi ha' hf
        exact ⟨d :: path, v, g, .field hb hfs hw' hbr, rfl, List.forall_mem_cons.mpr ⟨hn, hp⟩⟩
      case inr =>
        have hp : ∀ e ∈ [d], shared? e u = none := by simpa using hn
        rcases assembling_eq_error.mp hcode with hal | ⟨_, v, _, hal, hin, hcode⟩
        case inl => exact ⟨[d], t', g, .allocation hb hw hal, rfl, hp⟩
        case inr => exact ⟨[d], v, g, .initialization hb hw hal hin hcode, rfl, hp⟩

theorem Breaks.providers_get (hc : c.MadeBy .plain) (h : c.Breaks n s typeName path t g)
    (ha : s.dropped = false) : ∃ s', c.providers.get (c.services n) typeName s =
      (.error (.failed (g.within (path.map (·.name)))), s') := by
  induction h
  case unresolved hr => exact ⟨_, providers_get_of_unresolved hr⟩
  case circular s _ _ _ hr hn hst =>
    refine ⟨s, (providers_get_failed_iff ha).mpr ?_⟩
    rw [get_of_not_shared hr hn]
    exact tracked_of_cycle hst
  case allocation hb hw hal =>
    have hg := hb.get_failed hc <| code_eq_error.mpr <|
      .inr ⟨_, _, hw, assembling_eq_error.mpr <| .inl hal⟩
    exact ⟨_, (providers_get_failed_iff ha).mpr hg⟩
  case initialization hb hw hal hin hr =>
    have hg := hb.get_failed hc <| code_eq_error.mpr <|
      .inr ⟨_, _, hw, assembling_eq_error.mpr <| .inr ⟨_, _, _, hal, hin, hr⟩⟩
    exact ⟨_, (providers_get_failed_iff ha).mpr hg⟩
  case field hb hfs hw _ hi =>
    obtain ⟨_, hf⟩ := hi <| (leaves_of_wiring hc hw).dropped.trans <| hb.dropped.trans ha
    have hg := hb.get_failed hc <| code_eq_error.mpr <|
      .inl <| wiring_eq_error.mpr ⟨_, _, _, _, _, hfs, hw, hf⟩
    exact ⟨_, (providers_get_failed_iff ha).mpr hg⟩

-- The failures of requests are exactly those that some step makes for.
theorem get_failed_iff (hc : c.MadeBy .plain) (ha : s.dropped = false) :
    (∃ s', c.get (c.services n) typeName s = (.error (.failed f), s')) ↔
      ∃ path t g, c.Breaks (n + 1) s typeName path t g ∧ f = g.within (path.map (·.name)) := by
  constructor
  case mp =>
    rintro ⟨s', hg⟩
    obtain ⟨path, t, g, hb, hf, _⟩ :=
      breaks_of_providers_get hc ha <| (providers_get_failed_iff ha).mpr hg
    exact ⟨path, t, g, hb, hf⟩
  case mpr =>
    rintro ⟨path, t, g, hb, rfl⟩
    obtain ⟨s', hg⟩ := hb.providers_get hc ha
    exact ⟨s', (providers_get_failed_iff ha).mp hg⟩

namespace Breaks

theorem resolve_head (h : c.Breaks n s typeName path t g) :
    ∀ d ∈ path.head?, c.resolve typeName = .ok d := by
  induction h
  case unresolved                => exact nofun
  case circular                  => exact nofun
  case allocation hb _ _         => rintro _ ⟨⟩; exact hb.resolved
  case initialization hb _ _ _ _ => rintro _ ⟨⟩; exact hb.resolved
  case field hb _ _ _ _          => rintro _ ⟨⟩; exact hb.resolved

theorem needs (h : c.Breaks n s typeName path t g) : (path.map (·.name)).IsChain c.Needs := by
  induction h
  case unresolved     => exact .nil
  case circular       => exact .nil
  case allocation     => exact .singleton _
  case initialization => exact .singleton _
  case field d path _ _ f _ _ hb hfs _ hbr hi =>
    refine List.isChain_cons.mpr ⟨?_, hi⟩
    simp only [List.head?_map, Option.mem_def, Option.map_eq_some_iff]
    rintro _ ⟨d', hd', rfl⟩
    have hd := Registry.mem_of_resolve hb.resolved
    exact (needs_iff hd).mpr
      ⟨f, hfs ▸ List.mem_append_cons_self, d', hbr.resolve_head d' hd', rfl⟩

-- The components that are named are those whose creation has begun since.
theorem creating (hc : c.MadeBy .plain) (h : c.Breaks n s typeName path t g) :
    t.creating.names = s.creating.names ++ path.map (·.name) := by
  induction h
  case unresolved => simp
  case circular   => simp
  case allocation hb hw _ =>
    rw [(leaves_of_wiring hc hw).creating]
    exact hb.creating
  case initialization hb hw hal _ _ =>
    rw [(leaves_of_runPlain hc hal).creating, (leaves_of_wiring hc hw).creating]
    exact hb.creating
  case field hb _ hw _ hi =>
    rw [hi, (leaves_of_wiring hc hw).creating, hb.creating]
    simp

end Breaks

-- Instances are made the plain way, by a container that is there. When a request fails, the report
-- of its failure names the components that are being created by then, each for the sake of the one
-- before, down to the one of which a step fails, and goes on with the failure of that step as it
-- is. None of these components is kept.
theorem failure_traced (hc : c.MadeBy .plain) (ha : s.dropped = false)
    (hg : c.get (c.services n) typeName s = (.error (.failed f), s')) :
    ∃ path t g, c.Breaks (n + 1) s typeName path t g ∧
      (∀ d ∈ path.head?, c.resolve typeName = .ok d) ∧ (path.map (·.name)).IsChain c.Needs ∧
      t.creating.names = s.creating.names ++ path.map (·.name) ∧
      f = g.within (path.map (·.name)) ∧
      f.chain = path.map (Failure.creationText ·.name) ++ g.chain ∧
      ∀ d ∈ path, shared? d s' = none := by
  obtain ⟨path, t, g, hb, rfl, hp⟩ :=
    breaks_of_providers_get hc ha <| (providers_get_failed_iff ha).mpr hg
  refine ⟨path, t, g, hb, hb.resolve_head, hb.needs, hb.creating hc, rfl, ?_, hp⟩
  rw [Failure.chain_within, List.map_map]
  rfl

-- A hen that waits for her egg, which waits for a hen.
def stuck : Failure where
  creating := ["farm.Hen", "farm.Egg"]
  cause := .container (.circularDependency ["farm.Hen", "farm.Egg", "farm.Hen"])

theorem failure_traced_farm :
    farm.get (farm.services 2) "farm.Hen" (.start ()) = (.error (.failed stuck), .start ()) ∧
    ∃ path t g, farm.Breaks 3 (.start ()) "farm.Hen" path t g ∧
      t.creating.names = path.map (·.name) ∧ stuck = g.within (path.map (·.name)) ∧
      stuck.chain = path.map (Failure.creationText ·.name) ++ g.chain := by
  have hg : farm.get (farm.services 2) "farm.Hen" (.start ()) =
      (.error (.failed stuck), .start ()) := rfl
  obtain ⟨path, t, g, hb, _, _, ht, hf, hch, _⟩ := failure_traced farm_madeBy_plain rfl hg
  exact ⟨hg, path, t, g, hb, ht, hf, hch⟩

end Blame
end Container
end Interpose
