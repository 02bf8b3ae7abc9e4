import Interpose.Proofs.Container.Steps

namespace Interpose

variable {σ α : Type}

inductive Event where
  -- Code of a component, an advice or a client takes a step.
  | step
  -- The initialization of the cell of a singleton is entered.
  | enters (name : String)
  -- It has come to its end and put a handle into the cell.
  | fills (name : String) (h : Handle)
  -- It has failed.
  | fails (name : String)
  -- The container has given a component for a type.
  | gives (typeName : String) (h : Handle)

structure Moment (σ : Type) where
  event : Event
  session : Session σ
  -- The singletons whose cells are being initialized, the outermost first.
  running : List String

-- What happens while requests of code are answered, by the cells that are being initialized.
structure Chronicle (σ : Type) where
  get : List String → String → Session σ → List (Moment σ)
  invoke : List String → Handle → Option String → String → List Value → Session σ →
    List (Moment σ)

-- What happens while code runs.
def Behaviour.history (services : Services σ) (inner : Chronicle σ) (running : List String) :
    Action σ α → Session σ → List (Moment σ)
  | result _, s => [⟨.step, s, running⟩]
  | .fail _, s => [⟨.step, s, running⟩]
  | read next, s => ⟨.step, s, running⟩ :: (next s.user).history services inner running s
  | write u next, s =>
    ⟨.step, s, running⟩ :: next.history services inner running { s with user := u }
  | .get typeName next, s =>
    ⟨.step, s, running⟩ :: (inner.get running typeName s ++
      Act.continued (services.get typeName s) (fun _ => [])
        fun r => (next r).history services inner running)
  | invoke h caller method args next, s =>
    ⟨.step, s, running⟩ :: (inner.invoke running h caller method args s ++
      Act.continued (services.invoke h caller method args s) (fun _ => [])
        fun r => (next r).history services inner running)
  | ask r _, _ => Empty.elim r

-- A step that is watched: it also puts down what happens meanwhile.
abbrev Recorded (σ : Type) := ExceptT Halt (StateT (Session σ) (StateM (List (Moment σ))))

namespace Recorded

-- A step of which it is known what happens meanwhile.
def of (x : Act σ α) (history : Session σ → List (Moment σ)) : Recorded σ α :=
  fun s log => (x s, log ++ history s)

-- Puts down that a step begins.
def entering (event : Event) (running : List String) (y : Recorded σ α) : Recorded σ α :=
  fun s log => y s (log ++ [⟨event, s, running⟩])

-- Puts down how a step has come to its end.
def ending (y : Recorded σ α) (history : Except Halt α × Session σ → List (Moment σ)) :
    Recorded σ α :=
  fun s log => ((y s log).1, (y s log).2 ++ history (y s log).1)

-- Watched or not, a step does the same.
def Watches (y : Recorded σ α) (x : Act σ α) : Prop :=
  ∀ s log, (y s log).1 = x s

end Recorded

namespace Container

-- The end of the initialization of a cell.
def filling (name : String) (running : List String) :
    Except Halt Handle × Session σ → List (Moment σ)
  | (.ok h, s) => [⟨.fills name h, s, running⟩]
  | (.error (.failed _), s) => [⟨.fails name, s, running⟩]
  | (.error .exhausted, _) => []

def giving (typeName : String) (running : List String) :
    Except Halt Handle × Session σ → List (Moment σ)
  | (.ok h, s) => [⟨.gives typeName h, s, running⟩]
  | (.error _, _) => []

variable (c : Container σ) (i : Instantiator σ) (services : Services σ) (inner : Chronicle σ)
variable (running : List String)

-- Creates an instance by its code, watched.
def recordedCreate (d : Definition σ) : Recorded σ Handle :=
  .of (c.create services d) ((i.code c.providers d).history services inner running)

-- Makes a new instance, watched. That of a singleton is made by the initialization of its cell.
def recordedMake (d : Definition σ) : Recorded σ Handle :=
  match d.scope with
  | .singleton =>
    let running' := running ++ [d.name]
    .entering (.enters d.name) running <|
      (keeping d (c.recordedCreate i services inner running' d)).ending (filling d.name running')
  | .prototype => keeping d (c.recordedCreate i services inner running d)

-- What happens while a new instance is made.
def makeHistory (d : Definition σ) (s : Session σ) : List (Moment σ) :=
  (c.recordedMake i services inner running d s []).2

-- Looks a component up, watched.
def recordedGet (typeName : String) : Recorded σ Handle :=
  (c.find (c.recordedMake i services inner running) typeName).ending (giving typeName running)

-- What happens while the container looks for a component.
def getHistory (typeName : String) (s : Session σ) : List (Moment σ) :=
  (c.recordedGet i services inner running typeName s []).2

def recordedGetWhileAlive (typeName : String) : Recorded σ Handle :=
  whileAlive (c.recordedGet i services inner running typeName)

-- What happens while requests are answered, with room for calls so many levels deep.
def chronicle : Nat → Chronicle σ
  | 0 => { get := fun _ _ _ => [], invoke := fun _ _ _ _ _ _ => [] }
  | depth + 1 => {
    get := fun running typeName s =>
      (c.recordedGetWhileAlive i (c.services depth) (chronicle depth) running typeName s []).2
    invoke := fun running h caller method args s =>
      (c.callCode i h caller method args).history (c.services depth) (chronicle depth)
        running s }

end Container

namespace Recorded

variable {x : Act σ α} {y : Recorded σ α}

-- Filling a cell is not told of by itself.
theorem keeping_log (d : Definition σ) (y : Recorded σ Handle) (s : Session σ)
    (log : List (Moment σ)) : (Container.keeping d y s log).2 = (y s log).2 := by
  cases hd : d.scope
  case prototype => rw [Container.keeping_of_prototype hd]
  case singleton =>
    rw [Container.keeping_of_singleton hd]
    rfl

namespace Watches

theorem of (history : Session σ → List (Moment σ)) : (Recorded.of x history).Watches x :=
  fun _ _ => rfl

theorem entering (hw : y.Watches x) (event : Event) (running : List String) :
    (y.entering event running).Watches x :=
  fun s _ => hw s _

theorem ending (hw : y.Watches x) (history : Except Halt α × Session σ → List (Moment σ)) :
    (y.ending history).Watches x :=
  hw

variable {c : Container σ} {x : Act σ Handle} {y : Recorded σ Handle}

theorem keeping (hw : y.Watches x) (d : Definition σ) :
    (Container.keeping d y).Watches (Container.keeping d x) := by
  intro s log
  cases hd : d.scope
  case prototype =>
    rw [Container.keeping_of_prototype hd, Container.keeping_of_prototype hd]
    exact hw s log
  case singleton =>
    rw [Container.keeping_of_singleton hd, Container.keeping_of_singleton hd]
    exact congrArg (Container.kept d) (hw s log)

theorem tracked {name : String} (hw : y.Watches x) :
    (Container.tracked name y).Watches (Container.tracked name x) := by
  intro s log
  cases hs : s.creating.start name
  case error =>
    rw [Container.tracked_eq_throw hs, Container.tracked_eq_throw hs]
    rfl
  case ok =>
    rw [Container.tracked_of_begun (fun _ _ => rfl) hs,
      Container.tracked_of_begun (fun _ _ => rfl) hs]
    exact congrArg (Container.finished name) (hw _ log)

theorem find {making : Definition σ → Recorded σ Handle} {making' : Definition σ → Act σ Handle}
    (hw : ∀ d, (making d).Watches (making' d)) (typeName : String) :
    (c.find making typeName).Watches (c.find making' typeName) := by
  intro s log
  cases hr : c.resolve typeName
  case error =>
    rw [Container.find_of_unresolved hr, Container.find_of_unresolved hr]
    rfl
  case ok d =>
    cases hs : Container.shared? d s
    case some =>
      rw [Container.find_of_shared hr hs, Container.find_of_shared hr hs]
      rfl
    case none =>
      rw [Container.find_of_not_shared hr hs, Container.find_of_not_shared hr hs]
      exact (hw d).tracked s log

theorem whileAlive (hw : y.Watches x) :
    (Container.whileAlive y).Watches (Container.whileAlive x) := by
  intro s log
  cases hd : s.dropped
  case true =>
    rw [Container.whileAlive_of_dropped hd, Container.whileAlive_of_dropped hd]
    rfl
  case false =>
    rw [Container.whileAlive_of_alive hd, Container.whileAlive_of_alive hd]
    exact hw s log

end Watches
end Recorded

namespace Container

variable {c : Container σ} {i : Instantiator σ} {services : Services σ} {inner : Chronicle σ}
variable {running : List String} {d : Definition σ} {s : Session σ} {typeName : String}

-- What is told of is what the container does.
theorem recordedMake_watches (d : Definition σ) :
    (c.recordedMake i services inner running d).Watches (c.make services d) := by
  rw [recordedMake]
  cases d.scope
  case prototype => exact .keeping (.of _) d
  case singleton => exact .entering (.ending (.keeping (.of _) d) _) _ _

theorem recordedGet_watches (typeName : String) :
    (c.recordedGet i services inner running typeName).Watches (c.get services typeName) :=
  .ending (.find recordedMake_watches typeName) _

theorem recordedGetWhileAlive_watches (typeName : String) :
    (c.recordedGetWhileAlive i services inner running typeName).Watches
      (c.getWhileAlive services typeName) :=
  .whileAlive (recordedGet_watches typeName)

theorem makeHistory_of_prototype (hd : d.scope = .prototype) :
    c.makeHistory i services inner running d s =
      (i.code c.providers d).history services inner running s := by
  rw [makeHistory, recordedMake, hd]
  exact Recorded.keeping_log ..

theorem makeHistory_of_singleton (hd : d.scope = .singleton) :
    c.makeHistory i services inner running d s = ⟨.enters d.name, s, running⟩ ::
      ((i.code c.providers d).history services inner (running ++ [d.name]) s ++
        filling d.name (running ++ [d.name]) (c.make services d s)) := by
  have hm : (keeping d (c.recordedCreate i services inner (running ++ [d.name]) d)).Watches
      (c.make services d) := .keeping (.of _) d
  rw [makeHistory, recordedMake, hd]
  simp only [Recorded.entering, Recorded.ending, hm s, Recorded.keeping_log]
  rfl

section Get

variable (i services inner running)

-- The history of a request ends with what is given, if anything is.
theorem getHistory_eq (typeName : String) (s : Session σ) :
    c.getHistory i services inner running typeName s =
      (c.find (c.recordedMake i services inner running) typeName s []).2 ++
        giving typeName running (c.get services typeName s) :=
  congrArg (_ ++ giving typeName running ·) <|
    Recorded.Watches.find recordedMake_watches typeName s []

variable {i services inner running}

theorem getHistory_of_unresolved {e : ContainerError} (hr : c.resolve typeName = .error e) :
    c.getHistory i services inner running typeName s = [] := by
  rw [getHistory_eq, find_of_unresolved hr, get_of_unresolved hr]
  rfl

theorem getHistory_of_shared {h : Handle} (hr : c.resolve typeName = .ok d)
    (hs : shared? d s = some h) : c.getHistory i services inner running typeName s =
      giving typeName running (c.get services typeName s) := by
  rw [getHistory_eq, find_of_shared hr hs]
  exact List.nil_append _

theorem getHistory_of_cycle {cycle : List String} (hr : c.resolve typeName = .ok d)
    (hs : shared? d s = none) (hst : s.creating.start d.name = .error cycle) :
    c.getHistory i services inner running typeName s = [] := by
  rw [getHistory_eq, find_of_not_shared hr hs, tracked_eq_throw hst, get_of_not_shared hr hs,
    tracked_eq_throw hst]
  rfl

theorem getHistory_of_begun {chain : CreationChain} (hr : c.resolve typeName = .ok d)
    (hs : shared? d s = none) (hst : s.creating.start d.name = .ok chain) :
    c.getHistory i services inner running typeName s =
      c.makeHistory i services inner running d { s with creating := chain } ++
        giving typeName running (c.get services typeName s) := by
  rw [getHistory_eq, find_of_not_shared hr hs, tracked_of_begun (fun _ _ => rfl) hst]
  rfl

theorem chronicle_get_of_dropped {depth : Nat} (hd : s.dropped = true) :
    (c.chronicle i (depth + 1)).get running typeName s = [] := by
  simp only [chronicle, recordedGetWhileAlive, whileAlive_of_dropped hd]
  rfl

theorem chronicle_get_of_alive {depth : Nat} (hd : s.dropped = false) :
    (c.chronicle i (depth + 1)).get running typeName s =
      c.getHistory i (c.services depth) (c.chronicle i depth) running typeName s := by
  simp only [chronicle, recordedGetWhileAlive, whileAlive_of_alive hd, getHistory]

end Get
end Container
end Interpose
