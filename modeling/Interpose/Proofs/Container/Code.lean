import Interpose.Proofs.Outcome
import Interpose.Weaving.Proxy

namespace Interpose

variable {σ τ α β γ : Type} {R : Requests}

-- Goes on with the outcome of a request; if the depth of calls is used up there is nothing left to
-- do.
def Act.continued (r : Except Halt α × Session σ) (stop : Session σ → γ)
    (next : Except Failure α → Session σ → γ) : γ :=
  match r with
  | (.ok a, s) => next (.ok a) s
  | (.error (.failed f), s) => next (.error f) s
  | (.error .exhausted, s) => stop s

-- What comes after an attempt goes on with its outcome.
theorem Act.attempt_bind (x : Act σ α) (k : Except Failure α → Act σ β) (s : Session σ) :
    (x.attempt >>= k) s = continued (x s) (fun s => (.error .exhausted, s)) k := by
  rcases h : x s with ⟨_ | _, t⟩
  case ok => exact Step.bind_of_ok (by simp only [attempt, h])
  case error halt =>
    cases halt
    case failed    => exact Step.bind_of_ok (by simp only [attempt, h])
    case exhausted => exact Step.bind_of_error (by simp only [attempt, h])

theorem Act.continued_keeps {P : Session σ → Prop} {r : Except Halt α × Session σ}
    {next : Except Failure α → Session σ → Except Halt β × Session σ} (hr : P r.2)
    (hn : ∀ a {t}, P t → P (next a t).2) :
    P (continued r (fun s => (.error .exhausted, s)) next).2 := by
  obtain ⟨_ | _, t⟩ := r
  case ok => exact hn _ hr
  case error halt =>
    cases halt
    case failed    => exact hn _ hr
    case exhausted => exact hr

namespace Behaviour

-- Code that turns its failure into a result.
def attempt : Behaviour σ R α → Behaviour σ R (Except Failure α)
  | result a => result (.ok a)
  | fail f => result (.error f)
  | read next => read fun u => (next u).attempt
  | write u next => write u next.attempt
  | get typeName next => get typeName fun r => (next r).attempt
  | invoke h caller method args next => invoke h caller method args fun r => (next r).attempt
  | ask r next => ask r fun a => (next a).attempt

-- Code with its requests answered by other code, which keeps a memory of its own.
def answer (reply : (r : R.Request) → τ → Action σ (R.Reply r × τ)) :
    Behaviour σ R α → τ → Action σ α
  | result a, _ => result a
  | fail f, _ => fail f
  | read next, m => read fun u => (next u).answer reply m
  | write u next, m => write u (next.answer reply m)
  | get typeName next, m => get typeName fun r => (next r).answer reply m
  | invoke h caller method args next, m =>
    invoke h caller method args fun r => (next r).answer reply m
  | ask r next, m => (reply r m).bind fun a => (next a.1).answer reply a.2

section Run

variable (services : Services σ)

theorem runPlain_get {typeName : String} {next : Except Failure Handle → Action σ α}
    {s : Session σ} : (get typeName next).runPlain services s =
      Act.continued (services.get typeName s) (fun s => (.error .exhausted, s))
        (fun r => (next r).runPlain services) :=
  Act.attempt_bind ..

theorem runPlain_invoke {h : Handle} {caller : Option String} {method : String}
    {args : List Value} {next : Except Failure Value → Action σ α} {s : Session σ} :
    (invoke h caller method args next).runPlain services s =
      Act.continued (services.invoke h caller method args s) (fun s => (.error .exhausted, s))
        (fun r => (next r).runPlain services) :=
  Act.attempt_bind ..

-- What answered requests and changes of its own state keep, code keeps.
theorem runPlain_keeps {P : Session σ → Prop} (hw : ∀ s u, P s → P { s with user := u })
    (hg : ∀ typeName s, P s → P (services.get typeName s).2)
    (hi : ∀ h caller method args s, P s → P (services.invoke h caller method args s).2)
    (b : Action σ α) {s : Session σ} (hs : P s) : P (b.runPlain services s).2 := by
  induction b generalizing s
  case result      => exact hs
  case fail        => exact hs
  case ask r _ _   => exact Empty.elim r
  case read ih     => exact ih _ hs
  case write ih    => exact ih (hw s _ hs)
  case get typeName next ih =>
    rw [runPlain_get]
    exact Act.continued_keeps (hg typeName s hs) ih
  case invoke h caller method args next ih =>
    rw [runPlain_invoke]
    exact Act.continued_keeps (hi h caller method args s hs) ih

theorem runPlain_bind (b : Action σ α) (k : α → Action σ β) :
    (b.bind k).runPlain services = b.runPlain services >>= fun a => (k a).runPlain services := by
  induction b
  case result    => exact (pure_bind ..).symm
  case fail      => rfl
  case ask r _ _ => exact Empty.elim r
  case write hi =>
    rw [bind, runPlain, run, runPlain, run, bind_assoc]
    exact bind_congr fun _ => hi
  all_goals
    rename_i hi
    rw [bind, runPlain, run, runPlain, run, bind_assoc]
    exact bind_congr fun _ => hi _

theorem runPlain_attempt (b : Action σ α) :
    b.attempt.runPlain services = (b.runPlain services).attempt := by
  funext s
  induction b generalizing s
  case result      => rfl
  case fail        => rfl
  case ask r _ _   => exact Empty.elim r
  case read hi     => exact hi _ s
  case write u _ hi => exact hi { s with user := u }
  case get typeName next hi =>
    rw [attempt, runPlain_get, Act.attempt, runPlain_get]
    rcases services.get typeName s with ⟨_ | _, s'⟩
    case ok => exact hi _ s'
    case error halt =>
      cases halt
      case failed    => exact hi _ s'
      case exhausted => rfl
  case invoke h caller method args next hi =>
    rw [attempt, runPlain_invoke, Act.attempt, runPlain_invoke]
    rcases services.invoke h caller method args s with ⟨_ | _, s'⟩
    case ok => exact hi _ s'
    case error halt =>
      cases halt
      case failed    => exact hi _ s'
      case exhausted => rfl

theorem runPlain_answer (reply : (r : R.Request) → τ → Action σ (R.Reply r × τ))
    (b : Behaviour σ R α) (m : τ) : (b.answer reply m).runPlain services =
      b.run services (fun r m => (reply r m).runPlain services) m := by
  induction b generalizing m
  case result => rfl
  case fail   => rfl
  case ask r next hi =>
    rw [answer, runPlain_bind, run]
    exact bind_congr fun _ => hi _ _
  case write hi =>
    rw [answer, runPlain, run, run]
    exact bind_congr fun _ => hi m
  all_goals
    rename_i hi
    rw [answer, runPlain, run, run]
    exact bind_congr fun _ => hi _ m

theorem runPlain_foldlM (f : β → α → Action σ β) (as : List α) (b : β) :
    (as.foldlM f b).runPlain services =
      as.foldlM (fun b a => (f b a).runPlain services) b := by
  induction as generalizing b
  case nil => rfl
  case cons a as hi =>
    rw [List.foldlM_cons, List.foldlM_cons]
    change ((f b a).bind fun b => as.foldlM f b).runPlain services = _
    rw [runPlain_bind]
    exact bind_congr fun _ => hi _

theorem runPlain_check (x : Except ContainerError α) :
    (check x : Action σ α).runPlain services = Act.check x := by
  cases x <;> rfl

end Run
end Behaviour

variable (services : Services σ) (providers : Providers σ)

-- The code that gives a component of a type.
def Providers.code (typeName : String) : Action σ Value :=
  (Behaviour.check (providers typeName)).bind (·.supply)

theorem Providers.runPlain_code (typeName : String) :
    (providers.code typeName).runPlain services = providers.get services typeName := by
  rw [code, Behaviour.runPlain_bind, Behaviour.runPlain_check]
  rfl

namespace Definition

variable (d : Definition σ)

-- Fills the fields of a component, each with what some code gives for it.
def filling (value : Field → Action σ Value) : Action σ Wiring :=
  d.type.injectedFields.foldlM (fun w f => (value f).bind fun v => .result (w.insert f.name v))
    .empty

theorem runPlain_filling (value : Field → Action σ Value) :
    (d.filling value).runPlain services = d.type.injectedFields.foldlM (fun w f => do
      return w.insert f.name (← (value f).runPlain services)) .empty := by
  rw [filling, Behaviour.runPlain_foldlM]
  simp only [Behaviour.runPlain_bind]
  rfl

-- Runs the initialization of an instance, if there is one.
def preparing (target : Value) : Action σ Unit :=
  match d.initializer with
  | some init => init target
  | none => .result ()

-- Makes an instance of a wiring.
def assembling (w : Wiring) : Action σ Value :=
  (d.allocator w).bind fun target => (d.preparing target).bind fun _ => .result target

-- The code that makes an instance.
def code : Action σ Value :=
  (d.filling fun f => providers.code f.fieldType).bind d.assembling

theorem instantiate_eq_code : d.instantiate services providers =
    (d.code providers).runPlain services >>= fun target => Act.newHandle d.name target .direct := by
  simp only [code, assembling, Behaviour.runPlain_bind, runPlain_filling, Providers.runPlain_code,
    bind_assoc]
  refine bind_congr fun w => bind_congr fun target => ?_
  rw [preparing]
  cases d.initializer <;> rfl

end Definition

-- The code of an advice, once its aspect is there.
def Advice.code (a : Advice σ) (jp : JoinPoint)
    (reply : (r : jp.requests.Request) → τ → Action σ (jp.requests.Reply r × τ)) (m : τ) :
    Action σ Value :=
  a.provider.supply.bind fun aspect => (a.body aspect jp).answer reply m

theorem Advice.advise_eq_code (a : Advice σ) (jp : JoinPoint)
    (reply : (r : jp.requests.Request) → τ → Action σ (jp.requests.Reply r × τ)) (m : τ) :
    a.advise services jp (fun r m => (reply r m).runPlain services) m =
      (a.code jp reply m).runPlain services := by
  simp only [code, Behaviour.runPlain_bind, Behaviour.runPlain_answer]
  rfl

namespace MethodChain

def code (types : Hierarchy) (j : MethodJoint) (intercepted : Intercepted σ) :
    List (Advice σ) → Call → Action σ Value
  | [], i => intercepted.run j i
  | a :: rest, i =>
    if a.takesPart types i.caller j then
      a.code (.execution j i) (fun args _ =>
        (code types j intercepted rest { i with args := args.getD i.args }).attempt.bind
          fun r => .result (r, ())) ()
    else code types j intercepted rest i

theorem through_eq_code (types : Hierarchy) (j : MethodJoint) (intercepted : Intercepted σ)
    (as : List (Advice σ)) (i : Call) : through services types j intercepted as i =
      (code types j intercepted as i).runPlain services := by
  induction as generalizing i
  case nil => rfl
  case cons a as hi =>
    rw [through, code]
    split
    case isFalse => exact hi i
    case isTrue =>
      rw [← Advice.advise_eq_code]
      simp only [hi, Behaviour.runPlain_bind, Behaviour.runPlain_attempt]
      rfl

end MethodChain

namespace AutowireChain

def replying (inner : Action σ Value) :
    (r : AutowireRequest) → Option Value → Action σ (Requests.autowire.Reply r × Option Value)
  | .proceed, some v => .result (.ok v, some v)
  | .proceed, none => inner.attempt.bind fun r => .result (r, r.toOption)
  | .resolved, kept => .result (kept.isSome, kept)

def code (j : FieldJoint) (provider : Option (Provider σ)) : List (Advice σ) → Action σ Value
  | [] =>
    match provider with
    | some p => p.supply
    | none => .raise (.componentNotFound j.field.fieldType)
  | a :: rest => a.code (.autowire j) (replying (code j provider rest)) none

theorem reply_eq_replying (inner : Action σ Value) :
    reply (inner.runPlain services) = fun r kept => (replying inner r kept).runPlain services := by
  funext r kept
  cases r
  case resolved => rfl
  case proceed =>
    cases kept
    case some => rfl
    case none =>
      rw [replying, Behaviour.runPlain_bind, Behaviour.runPlain_attempt]
      refine bind_congr fun r => ?_
      cases r <;> rfl

theorem through_eq_code (j : FieldJoint) (provider : Option (Provider σ)) (as : List (Advice σ)) :
    through services j provider as = (code j provider as).runPlain services := by
  induction as
  case nil => cases provider <;> rfl
  case cons a as hi =>
    rw [through, hi, reply_eq_replying]
    exact a.advise_eq_code services (.autowire j) (replying (code j provider as)) none

end AutowireChain

namespace Proxy

variable (p : Proxy σ)

def fieldCode (f : Field) : Action σ Value :=
  match p.injectionChain? f.name with
  | some chain => AutowireChain.code chain.joint chain.provider chain.advisors.advisors
  | none => providers.code f.fieldType

def allocating (w : Wiring) : Action σ Value :=
  match p.newChain with
  | some c => MethodChain.code c.types c.joint c.intercepted c.advisors.advisors
    ⟨none, none, [w.toValue]⟩
  | none => p.definition.allocator w

def preparing (target : Value) : Action σ Unit :=
  match p.initChain with
  | some c => (MethodChain.code c.types c.joint c.intercepted c.advisors.advisors
    ⟨none, some target, []⟩).bind fun _ => .result ()
  | none => p.definition.preparing target

-- The code that makes an instance, each step through its advices.
def code : Action σ Value :=
  (p.definition.filling (p.fieldCode providers)).bind fun w =>
    (p.allocating w).bind fun target => (p.preparing target).bind fun _ => .result target

theorem runPlain_fieldCode (f : Field) :
    (p.fieldCode providers f).runPlain services = p.fieldValue services providers f := by
  rw [fieldCode, fieldValue]
  cases p.injectionChain? f.name
  case none => exact Providers.runPlain_code ..
  case some => exact (AutowireChain.through_eq_code ..).symm

theorem runPlain_allocating (w : Wiring) :
    (p.allocating w).runPlain services = p.allocate services w := by
  rw [allocating, allocate]
  cases p.newChain
  case none => rfl
  case some => exact (MethodChain.through_eq_code ..).symm

theorem runPlain_preparing (target : Value) :
    (p.preparing target).runPlain services = p.prepare services target := by
  rw [preparing, prepare]
  cases p.initChain
  case none =>
    rw [Definition.preparing]
    cases p.definition.initializer <;> rfl
  case some =>
    rw [Behaviour.runPlain_bind, ← MethodChain.through_eq_code]
    rfl

theorem instantiate_eq_code : p.instantiate services providers =
    (p.code providers).runPlain services >>= fun target => Act.newHandle p.name target .woven := by
  simp only [code, Behaviour.runPlain_bind, Definition.runPlain_filling, runPlain_fieldCode,
    runPlain_allocating, runPlain_preparing, bind_assoc]
  rfl

-- The code of a call.
def callCode (caller : Option String) (target : Value) (method : String) (args : List Value) :
    Action σ Value :=
  match p.passages.lookup method with
  | some (.direct body) => body target args
  | some (.woven c) => MethodChain.code c.types c.joint c.intercepted c.advisors.advisors
    ⟨caller, some target, args⟩
  | none => .raise (.methodNotFound p.name method)

theorem dispatch_eq_code (caller : Option String) (target : Value) (method : String)
    (args : List Value) : p.dispatch services caller target method args =
      (p.callCode caller target method args).runPlain services := by
  rw [dispatch, callCode]
  rcases p.passages.lookup method with _ | _ | _
  case none         => rfl
  case some.direct  => rfl
  case some.woven   => exact MethodChain.through_eq_code ..

end Proxy

-- The ways to make instances: as the definitions say, or by proxies.
inductive Instantiator (σ : Type) where
  | plain
  | woven (table : Proxies σ)

namespace Instantiator

def construction : Instantiator σ → Construction σ
  | plain => .plain
  | woven table => table.construction

-- The code that makes an instance of a component.
def code : Instantiator σ → Definition σ → Action σ Value
  | plain, d => d.code providers
  | woven table, d =>
    match table.get? d.name with
    | some p => p.code providers
    | none => d.code providers

-- How the methods of such an instance are reached.
def route : Instantiator σ → Definition σ → Route
  | plain, _ => .direct
  | woven table, d => if (table.get? d.name).isSome then .woven else .direct

-- The code of a call on a handle with a proxy.
def callCode : Instantiator σ → Handle → Option String → String → List Value → Action σ Value
  | plain, h, _, method, _ => .raise (.methodNotFound h.typeName method)
  | woven table, h, caller, method, args =>
    match table.get? h.typeName with
    | some p => p.callCode caller h.target method args
    | none => .raise (.methodNotFound h.typeName method)

variable (i : Instantiator σ)

theorem instantiate_eq_code (d : Definition σ) : i.construction.instantiate services providers d =
    (i.code providers d).runPlain services >>= fun target =>
      Act.newHandle d.name target (i.route d) := by
  cases i
  case plain => exact d.instantiate_eq_code services providers
  case woven table =>
    change table.instantiate services providers d = _
    rw [Proxies.instantiate, code, route]
    cases hp : table.get? d.name
    case none => exact d.instantiate_eq_code services providers
    case some p =>
      have hn : p.name = d.name := beq_iff_eq.mp (List.find?_some hp :)
      exact hn ▸ p.instantiate_eq_code services providers

theorem dispatch_eq_code (h : Handle) (caller : Option String) (method : String)
    (args : List Value) : i.construction.dispatch services h caller method args =
      (i.callCode h caller method args).runPlain services := by
  cases i
  case plain => rfl
  case woven table =>
    rw [callCode]
    change (match table.get? h.typeName with | some p => _ | none => _) = _
    cases table.get? h.typeName
    case none => rfl
    case some => exact Proxy.dispatch_eq_code ..

end Instantiator

namespace Container

-- The container makes its instances in such a way.
def MadeBy (c : Container σ) (i : Instantiator σ) : Prop :=
  c.construction = some i.construction

variable (c : Container σ) (i : Instantiator σ)

-- The code of a call on a handle.
def callCode (h : Handle) (caller : Option String) (method : String) (args : List Value) :
    Action σ Value :=
  match h.route with
  | .direct =>
    match c.registry.get? h.typeName with
    | some d => d.dispatch h.target method args
    | none => .raise (.componentNotFound h.typeName)
  | .woven => i.callCode h caller method args
  | .outside => (c.outside h.typeName).dispatch h.target method args

theorem invoke_eq_code (hc : c.MadeBy i) (h : Handle) (caller : Option String) (method : String)
    (args : List Value) : c.invoke services h caller method args =
      (c.callCode i h caller method args).runPlain services := by
  rw [invoke, callCode]
  cases h.route
  case outside => rfl
  case direct  => cases c.registry.get? h.typeName <;> rfl
  case woven   =>
    rw [hc]
    exact i.dispatch_eq_code ..

theorem create_eq_code (hc : c.MadeBy i) (d : Definition σ) : c.create services d =
    Act.whileCreating d.name ((i.code c.providers d).runPlain services >>= fun target =>
      Act.newHandle d.name target (i.route d)) := by
  rw [create, hc]
  exact congrArg (Act.whileCreating d.name) (i.instantiate_eq_code ..)

end Container
end Interpose
