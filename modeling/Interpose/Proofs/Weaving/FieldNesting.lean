import Interpose.Proofs.Weaving.Nesting

namespace Interpose

variable {σ α : Type}

namespace Behaviour

-- The answer to an advice that proceeds is what is inside of it, or the value that is kept of it.
def fetching (inner : Act σ Value) (r : Requests.autowire.Request) (kept : Option Value) :
    Act σ (Requests.autowire.Reply r × Option Value) :=
  AutowireChain.reply inner r kept

-- Runs the code of an advice around what is inside of it, of which a value may be kept.
def fetched (services : Services σ) (inner : Act σ Value) (kept : Option Value)
    (b : Behaviour σ .autowire α) : Act σ α :=
  b.run services (fetching inner) kept

theorem fetched_eq_resume (services : Services σ) (inner : Act σ Value) (kept : Option Value)
    (b : Behaviour σ .autowire α) : b.fetched services inner kept =
      b.untilRequest services >>= resume services (fetching inner) kept :=
  run_eq_resume services b (fetching inner) kept

theorem resume_proceed (services : Services σ) (inner : Act σ Value)
    (next : Except Failure Value → Behaviour σ .autowire α) :
    resume services (fetching inner) none (.asks (R := .autowire) .proceed next) =
      inner.attempt >>= fun r => (next r).fetched services inner r.toOption := by
  change (inner.attempt >>= _) >>= _ = _
  rw [bind_assoc]
  refine bind_congr fun r => ?_
  cases r <;> exact pure_bind ..

end Behaviour

-- An advice as a function of what is inside of it.
def Advice.aroundField (services : Services σ) (j : FieldJoint) (a : Advice σ)
    (inner : Act σ Value) : Act σ Value := do
  let aspect ← a.provider.supply.runPlain services
  (a.body aspect (.autowire j)).fetched services inner none

-- Advices around one another and around the original, the first of them outermost.
def nestField (services : Services σ) (j : FieldJoint) (original : Act σ Value)
    (as : List (Advice σ)) : Act σ Value :=
  as.foldr (Advice.aroundField services j) original

-- What code comes to if it lets the inner part run whenever it proceeds and no value is kept of it
-- yet: one case for each way in which it can pause.
structure Fetches (services : Services σ) (inner : Act σ Value)
    (run : Option Value → Behaviour σ .autowire Value → Act σ Value) : Prop where
  returns : ∀ {kept b s s' v}, b.untilRequest services s = (.ok (.done v), s') →
    run kept b s = (.ok v, s')
  halts : ∀ {kept b s s' halt}, b.untilRequest services s = (.error halt, s') →
    run kept b s = (.error halt, s')
  proceeds : ∀ {b s s' next}, b.untilRequest services s = (.ok (.asks .proceed next), s') →
    run none b s = (inner.attempt >>= fun r => run r.toOption (next r)) s'
  repeats : ∀ {b s s' v next}, b.untilRequest services s = (.ok (.asks .proceed next), s') →
    run (some v) b s = run (some v) (next (.ok v)) s'
  resolved : ∀ {kept b s s' next}, b.untilRequest services s = (.ok (.asks .resolved next), s') →
    run kept b s = run kept (next kept.isSome) s'

theorem fetched_fetches (services : Services σ) (inner : Act σ Value) :
    Fetches services inner fun kept b => b.fetched services inner kept := by
  constructor
  case returns =>
    intro kept b s s' v h
    rw [Behaviour.fetched_eq_resume, Step.bind_of_ok h]
    rfl
  case halts =>
    intro kept b s s' halt h
    rw [Behaviour.fetched_eq_resume, Step.bind_of_error h]
  case proceeds =>
    intro b s s' next h
    rw [Behaviour.fetched_eq_resume, Step.bind_of_ok h]
    exact congrFun (Behaviour.resume_proceed services inner next) s'
  case repeats =>
    intro b s s' v next h
    rw [Behaviour.fetched_eq_resume, Step.bind_of_ok h]
    rfl
  case resolved =>
    intro kept b s s' next h
    rw [Behaviour.fetched_eq_resume, Step.bind_of_ok h]
    rfl

namespace AutowireChain

theorem through_eq_nest (services : Services σ) (j : FieldJoint) (provider : Option (Provider σ))
    (as : List (Advice σ)) :
    through services j provider as = nestField services j (lookUp services j provider) as := by
  induction as
  case nil => rfl
  case cons a as hi =>
    rw [through, hi]
    rfl

end AutowireChain
end Interpose
