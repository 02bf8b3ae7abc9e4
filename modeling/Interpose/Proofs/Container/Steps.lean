import Mathlib.Data.List.Nodup
import Interpose.Proofs.Container.Code

namespace Interpose

variable {σ : Type}

namespace CreationChain

variable {chain chain' : CreationChain} {name : String}

theorem start_eq_ok : chain.start name = .ok chain' ↔
    name ∉ chain.names ∧ chain' = ⟨chain.names ++ [name]⟩ := by
  rw [start]
  by_cases h : name ∈ chain.names
  case pos => simp [h]
  case neg => simp [h, eq_comm]

theorem nodup_of_start (hs : chain.start name = .ok chain') (hn : chain.names.Nodup) :
    chain'.names.Nodup := by
  obtain ⟨hm, rfl⟩ := start_eq_ok.mp hs
  simpa using hn.concat hm

end CreationChain

-- What has been begun always comes to an end, so that what is done finally is done after it.
def Completes (n : Type → Type) [Monad n] [MonadFinally n] : Prop :=
  ∀ {β γ : Type} (y : n β) (g : Option β → n γ),
    tryFinally' y g = do let b ← y; let c ← g (some b); return (b, c)

namespace Container

variable {c : Container σ} {i : Instantiator σ} {services : Services σ} {d : Definition σ}
variable {s t : Session σ} {h : Handle} {typeName : String}

section Effects

-- A step may have any effects besides those on the session.
variable {n : Type → Type} [Monad n] {α : Type} {name : String}
variable {x : ExceptT Halt (StateT (Session σ) n) Handle}

theorem keeping_of_prototype (hd : d.scope = .prototype) : keeping d x = x := by
  rw [keeping, hd]

variable [LawfulMonad n]

theorem lift_bind {β : Type} {y : StateT (Session σ) n β} {b : β} (hy : y s = pure (b, t))
    (f : β → ExceptT Halt (StateT (Session σ) n) α) : (ExceptT.lift y >>= f) s = f b t := by
  change (Except.ok <$> y >>= ExceptT.bindCont f : StateT (Session σ) n _) s = _
  rw [bind_map_left]
  change (y s >>= fun r => f r.1 r.2) = _
  rw [hy, pure_bind]

theorem get_bind (f : Session σ → ExceptT Halt (StateT (Session σ) n) α) (s : Session σ) :
    (MonadState.get >>= f) s = f s s :=
  lift_bind rfl f

theorem set_bind (t : Session σ) (y : ExceptT Halt (StateT (Session σ) n) α) (s : Session σ) :
    (MonadState.set t >>= fun _ => y) s = y t :=
  lift_bind rfl _

theorem modify_bind (f : Session σ → Session σ) (y : ExceptT Halt (StateT (Session σ) n) α)
    (s : Session σ) : (modify f >>= fun _ => y) s = y (f s) :=
  lift_bind rfl _

-- What comes of a step whose handle goes into a cell.
def kept (d : Definition σ) :
    Except Halt Handle × Session σ → Except Halt Handle × Session σ
  | (.ok h, s) => (.ok h, { s with cells := (d.name, h) :: s.cells })
  | (.error halt, s) => (.error halt, s)

theorem keeping_of_singleton (hd : d.scope = .singleton) : keeping d x s = kept d <$> x s := by
  rw [keeping, hd, map_eq_pure_bind]
  refine bind_congr fun r => ?_
  obtain ⟨_ | h, t⟩ := r
  case error => rfl
  case ok    => exact modify_bind (fun s => { s with cells := (d.name, h) :: s.cells }) (pure h) t

theorem whileAlive_of_dropped (hd : s.dropped = true) :
    whileAlive x s = pure (.error (.failed (.container .containerDropped)), s) := by
  rw [whileAlive, get_bind, if_pos hd]
  rfl

theorem whileAlive_of_alive (hd : s.dropped = false) : whileAlive x s = x s := by
  rw [whileAlive, get_bind, if_neg (Bool.eq_false_iff.mp hd)]

variable [MonadFinally n] {making : Definition σ → ExceptT Halt (StateT (Session σ) n) Handle}

-- However a step ends, the session is changed.
theorem finally_apply (hn : Completes n) (f : Session σ → Session σ) (s : Session σ) :
    tryFinally x (modify f) s = (fun r => (r.1, f r.2)) <$> x s := by
  have hf (t : Session σ) : (modify f : ExceptT Halt (StateT (Session σ) n) PUnit) t =
      pure (.ok ⟨⟩, f t) :=
    pure_bind (PUnit.unit, f t) _
  rw [map_eq_pure_bind]
  simp only [tryFinally, tryFinally', Functor.map, ExceptT.map, ExceptT.mk, bind, StateT.bind,
    hn (x s), bind_assoc]
  refine bind_congr fun r => ?_
  obtain ⟨_ | h, t⟩ := r <;> simp only [hf, pure_bind]
  case error halt => exact pure_bind (Except.error halt, f t) _
  case ok         => exact pure_bind (Except.ok (h, PUnit.unit), f t) _

-- What comes of a step that creates a component.
def finished (name : String) (r : Except Halt Handle × Session σ) :
    Except Halt Handle × Session σ :=
  (r.1, { r.2 with creating := r.2.creating.finish name })

theorem tracked_of_begun (hn : Completes n) {chain : CreationChain}
    (hs : s.creating.start name = .ok chain) :
    tracked name x s = finished name <$> x { s with creating := chain } := by
  rw [tracked, get_bind, hs]
  exact (set_bind _ _ s).trans (finally_apply hn ..)

theorem tracked_eq_throw {cycle : List String} (hs : s.creating.start name = .error cycle) :
    tracked name x s = pure (.error (.failed (.container (.circularDependency cycle))), s) := by
  rw [tracked, get_bind, hs]
  rfl

omit [LawfulMonad n] in
theorem find_of_unresolved {e : ContainerError} (hr : c.resolve typeName = .error e) :
    c.find making typeName s = pure (.error (.failed (.container e)), s) := by
  rw [find, hr]
  rfl

theorem find_of_shared (hr : c.resolve typeName = .ok d) (hs : shared? d s = some h) :
    c.find making typeName s = pure (.ok h, s) := by
  simp only [find, hr, get_bind, hs]
  rfl

theorem find_of_not_shared (hr : c.resolve typeName = .ok d) (hs : shared? d s = none) :
    c.find making typeName s = tracked d.name (making d) s := by
  simp only [find, hr, get_bind, hs]

end Effects

-- An instance gets the next serial number when its code has come to its end.
theorem create_of_ok (hc : c.MadeBy i) {target : Value}
    (hr : (i.code c.providers d).runPlain services s = (.ok target, t)) : c.create services d s =
      (.ok ⟨d.name, target, i.route d, t.nextSerial⟩,
        { t with nextSerial := t.nextSerial + 1 }) := by
  rw [c.create_eq_code services i hc, Act.whileCreating, Step.bind_of_ok hr]
  rfl

theorem create_of_failed (hc : c.MadeBy i) {f : Failure}
    (hr : (i.code c.providers d).runPlain services s = (.error (.failed f), t)) :
    c.create services d s = (.error (.failed (f.whileCreating d.name)), t) := by
  rw [c.create_eq_code services i hc, Act.whileCreating, Step.bind_of_error hr]

theorem create_of_exhausted (hc : c.MadeBy i)
    (hr : (i.code c.providers d).runPlain services s = (.error .exhausted, t)) :
    c.create services d s = (.error .exhausted, t) := by
  rw [c.create_eq_code services i hc, Act.whileCreating, Step.bind_of_error hr]

theorem make_of_prototype (hd : d.scope = .prototype) :
    c.make services d = c.create services d :=
  keeping_of_prototype hd

theorem make_of_ok (hd : d.scope = .singleton) (hr : c.create services d s = (.ok h, t)) :
    c.make services d s = (.ok h, { t with cells := (d.name, h) :: t.cells }) :=
  (keeping_of_singleton hd).trans (congrArg (kept d) hr)

theorem make_of_error (hd : d.scope = .singleton) {halt : Halt}
    (hr : c.create services d s = (.error halt, t)) :
    c.make services d s = (.error halt, t) :=
  (keeping_of_singleton hd).trans (congrArg (kept d) hr)

theorem make_eq_ok (hm : c.make services d s = (.ok h, t)) :
    ∃ u, c.create services d s = (.ok h, u) ∧ (d.scope = .prototype → t = u) ∧
      (d.scope = .singleton → t = { u with cells := (d.name, h) :: u.cells }) := by
  cases hd : d.scope
  case prototype =>
    rw [make_of_prototype hd] at hm
    exact ⟨t, hm, fun _ => rfl, nofun⟩
  case singleton =>
    rcases hr : c.create services d s with ⟨_ | h, u⟩
    case error => cases hm.symm.trans (make_of_error hd hr)
    case ok    =>
      cases hm.symm.trans (make_of_ok hd hr)
      exact ⟨u, rfl, nofun, fun _ => rfl⟩

theorem shared?_of_singleton (hd : d.scope = .singleton) :
    shared? d s = s.cells.lookup d.name := by
  rw [shared?, hd]

theorem shared?_eq_some :
    shared? d s = some h ↔ d.scope = .singleton ∧ s.cells.lookup d.name = some h := by
  cases hd : d.scope <;> simp [shared?, hd]

theorem tracked_of_ok {name : String} {chain : CreationChain} {x : Act σ Handle}
    (hs : s.creating.start name = .ok chain) : tracked name x s =
      ((x { s with creating := chain }).1,
        { (x { s with creating := chain }).2 with
          creating := (x { s with creating := chain }).2.creating.finish name }) :=
  tracked_of_begun (fun _ _ => rfl) hs

theorem tracked_of_cycle {name : String} {cycle : List String} {x : Act σ Handle}
    (hs : s.creating.start name = .error cycle) :
    tracked name x s = (.error (.failed (.container (.circularDependency cycle))), s) :=
  tracked_eq_throw hs

theorem tracked_eq_ok {name : String} {x : Act σ Handle} (ht : tracked name x s = (.ok h, t)) :
    ∃ chain u, s.creating.start name = .ok chain ∧ x { s with creating := chain } = (.ok h, u) ∧
      t = { u with creating := u.creating.finish name } := by
  cases hst : s.creating.start name
  case error => cases ht.symm.trans (tracked_of_cycle hst)
  case ok chain =>
    rw [tracked_of_ok hst] at ht
    have ⟨hh, ht'⟩ := Prod.mk.inj ht
    exact ⟨chain, _, rfl, Prod.ext hh rfl, ht'.symm⟩

-- A component is only made if it is not shared and there, and if it is not being created already.
-- While it is made, it is.
theorem find_congr {making making' : Definition σ → Act σ Handle}
    (hm : ∀ d, c.resolve typeName = .ok d → shared? d s = none →
      d.name ∉ s.creating.names →
      making d { s with creating := ⟨s.creating.names ++ [d.name]⟩ } =
        making' d { s with creating := ⟨s.creating.names ++ [d.name]⟩ }) :
    c.find making typeName s = c.find making' typeName s := by
  cases hr : c.resolve typeName
  case error => rw [find_of_unresolved hr, find_of_unresolved hr]
  case ok d =>
    cases hs : shared? d s
    case some => rw [find_of_shared hr hs, find_of_shared hr hs]
    case none =>
      rw [find_of_not_shared hr hs, find_of_not_shared hr hs]
      cases hst : s.creating.start d.name
      case error => rw [tracked_of_cycle hst, tracked_of_cycle hst]
      case ok =>
        obtain ⟨hn, rfl⟩ := CreationChain.start_eq_ok.mp hst
        rw [tracked_of_ok hst, tracked_of_ok hst, hm d hr hs hn]

theorem get_of_unresolved {e : ContainerError} (hr : c.resolve typeName = .error e) :
    c.get services typeName s = (.error (.failed (.container e)), s) :=
  find_of_unresolved hr

theorem get_of_shared (hr : c.resolve typeName = .ok d) (hs : shared? d s = some h) :
    c.get services typeName s = (.ok h, s) :=
  find_of_shared hr hs

theorem get_of_not_shared (hr : c.resolve typeName = .ok d) (hs : shared? d s = none) :
    c.get services typeName s = tracked d.name (c.make services d) s :=
  find_of_not_shared hr hs

theorem getWhileAlive_of_dropped (hd : s.dropped = true) : c.getWhileAlive services typeName s =
    (.error (.failed (.container .containerDropped)), s) :=
  whileAlive_of_dropped hd

theorem getWhileAlive_of_alive (hd : s.dropped = false) :
    c.getWhileAlive services typeName s = c.get services typeName s :=
  whileAlive_of_alive hd

end Container
end Interpose
