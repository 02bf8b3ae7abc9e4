import Interpose.Proofs.Outcome
import Interpose.Weaving.Chain

namespace Interpose

namespace Behaviour

variable {σ τ α : Type} {R : Requests}

-- How far code gets without an answer to a request.
inductive Pause (σ : Type) (R : Requests) (α : Type)
  | done (a : α)
  | asks (r : R.Request) (next : R.Reply r → Behaviour σ R α)

-- Runs code up to its end or its first request.
def untilRequest (services : Services σ) : Behaviour σ R α → Act σ (Pause σ R α)
  | result a => pure (.done a)
  | .fail f => Act.fail f
  | read next => do (next (← MonadState.get).user).untilRequest services
  | write u next => do
    modifyThe (Session σ) fun s => { s with user := u }
    next.untilRequest services
  | .get typeName next => do
    (next (← (services.get typeName).attempt)).untilRequest services
  | invoke h caller method args next => do
    (next (← (services.invoke h caller method args).attempt)).untilRequest services
  | ask r next => pure (.asks r next)

-- Answers the request that code is left with, if there is one, and goes on.
def resume (services : Services σ) (reply : (r : R.Request) → τ → Act σ (R.Reply r × τ)) (m : τ) :
    Pause σ R α → Act σ α
  | .done a => pure a
  | .asks r next => do
    let (a, m) ← reply r m
    (next a).run services reply m

theorem run_eq_resume (services : Services σ) (b : Behaviour σ R α)
    (reply : (r : R.Request) → τ → Act σ (R.Reply r × τ)) (m : τ) :
    b.run services reply m = b.untilRequest services >>= resume services reply m := by
  induction b
  case result => rfl
  case fail   => rfl
  case ask    => rfl
  case read hi =>
    rw [run, untilRequest, bind_assoc]
    exact bind_congr fun _ => hi _
  case write hi =>
    rw [run, untilRequest, bind_assoc]
    exact bind_congr fun _ => hi
  case get hi =>
    rw [run, untilRequest, bind_assoc]
    exact bind_congr fun _ => hi _
  case invoke hi =>
    rw [run, untilRequest, bind_assoc]
    exact bind_congr fun _ => hi _

-- The answer to an advice that proceeds is the outcome of what is inside of it, for the same
-- caller and target and with other arguments if the advice gives some.
def outcome (inner : Call → Act σ Value) (i : Call) :
    (r : Requests.execution.Request) → Unit → Act σ (Requests.execution.Reply r × Unit) :=
  fun (args : Option (List Value)) _ => do
    return (← (inner { i with args := args.getD i.args }).attempt, ())

-- Runs the code of an advice around what is inside of it.
def answered (services : Services σ) (inner : Call → Act σ Value) (i : Call)
    (b : Behaviour σ .execution α) : Act σ α :=
  b.run services (outcome inner i) ()

theorem resume_asks (services : Services σ) (inner : Call → Act σ Value) (i : Call)
    (args : Option (List Value)) (next : Except Failure Value → Behaviour σ .execution α) :
    resume services (outcome inner i) () (.asks (R := .execution) args next) =
      (inner { i with args := args.getD i.args }).attempt >>=
        fun r => (next r).answered services inner i := by
  have hp : ∀ (x : Act σ (Except Failure Value)) (f : Except Failure Value × Unit → Act σ α),
      (do return (← x, ())) >>= f = x >>= fun r => f (r, ()) := by
    intro x f
    rw [bind_assoc]
    exact bind_congr fun _ => pure_bind ..
  exact hp ..

end Behaviour

variable {σ : Type}

-- An advice as a function of what is inside of it.
def Advice.around (services : Services σ) (j : MethodJoint) (a : Advice σ)
    (inner : Call → Act σ Value) (i : Call) : Act σ Value := do
  let aspect ← a.provider.supply.runPlain services
  (a.body aspect (.execution j i)).answered services inner i

-- Advices around one another and around the original, the first of them outermost.
def nest (services : Services σ) (j : MethodJoint) (original : Call → Act σ Value)
    (as : List (Advice σ)) : Call → Act σ Value :=
  as.foldr (Advice.around services j) original

-- What code comes to if it lets the inner part run whenever it proceeds: one case for each way
-- in which it can pause.
structure Proceeds (services : Services σ) (inner : Call → Act σ Value) (i : Call)
    (run : Behaviour σ .execution Value → Act σ Value) : Prop where
  returns : ∀ {b s s' v}, b.untilRequest services s = (.ok (.done v), s') →
    run b s = (.ok v, s')
  halts : ∀ {b s s' halt}, b.untilRequest services s = (.error halt, s') →
    run b s = (.error halt, s')
  proceeds : ∀ {b s s' next}, b.untilRequest services s = (.ok (.asks none next), s') →
    run b s = ((inner i).attempt >>= fun r => run (next r)) s'
  proceedsOn : ∀ {b s s' args next}, b.untilRequest services s = (.ok (.asks (some args) next), s') →
    run b s = ((inner { i with args }).attempt >>= fun r => run (next r)) s'

theorem answered_proceeds (services : Services σ) (inner : Call → Act σ Value) (i : Call) :
    Proceeds services inner i (·.answered services inner i) := by
  constructor
  case returns =>
    intro b s s' v h
    rw [Behaviour.answered, Behaviour.run_eq_resume, Step.bind_of_ok h]
    rfl
  case halts =>
    intro b s s' halt h
    rw [Behaviour.answered, Behaviour.run_eq_resume, Step.bind_of_error h]
  case proceeds =>
    intro b s s' next h
    rw [Behaviour.answered, Behaviour.run_eq_resume, Step.bind_of_ok h]
    exact congrFun (Behaviour.resume_asks services inner i none next) s'
  case proceedsOn =>
    intro b s s' args next h
    rw [Behaviour.answered, Behaviour.run_eq_resume, Step.bind_of_ok h]
    exact congrFun (Behaviour.resume_asks services inner i (some args) next) s'

namespace MethodChain

-- The caller stays the same all the way in, so whether an advice takes part is settled by the
-- call from outside.
theorem through_eq_nest (services : Services σ) (types : Hierarchy) (j : MethodJoint)
    (intercepted : Intercepted σ) (as : List (Advice σ)) (i : Call) :
    through services types j intercepted as i =
      nest services j (fun i => (intercepted.run j i).runPlain services)
        (as.filter (·.takesPart types i.caller j)) i := by
  induction as generalizing i
  case nil => rfl
  case cons a as hi =>
    rw [through, List.filter_cons]
    split
    case isFalse => exact hi i
    case isTrue =>
      simp only [hi]
      rfl

-- The composition runs the advices that do not watch the caller or whose pointcut selects the
-- call, and each of them has what is inside of it run exactly when and as it asks for it.
theorem invoke_eq_nest (services : Services σ) (c : MethodChain σ) (i : Call) :
    c.invoke services i =
      nest services c.joint (fun i => (c.intercepted.run c.joint i).runPlain services)
        (c.advisors.advisors.filter fun a =>
          !a.pointcut.watchesCaller || a.pointcut.selectsMethod c.types i.caller c.joint) i ∧
    ∀ (a : Advice σ) (inner : Call → Act σ Value) (i : Call),
      ∃ run, Proceeds services inner i run ∧
        a.around services c.joint inner i =
          a.provider.supply.runPlain services >>= fun aspect =>
            run (a.body aspect (.execution c.joint i)) := by
  constructor
  case left  => exact through_eq_nest services c.types c.joint c.intercepted _ i
  case right => exact fun a inner i => ⟨_, answered_proceeds services inner i, rfl⟩

end MethodChain
end Interpose
