import Interpose.Proofs.Container.Creation

namespace Interpose

variable {σ α β : Type}

namespace Act

-- With enough room for calls, a step always ends like this.
def Settles (x : Nat → Act σ α) (s : Session σ) (r : Except Failure α) (s' : Session σ) : Prop :=
  ∃ least, ∀ depth ≥ least, x depth s = (r.mapError .failed, s')

variable {x : Nat → Act σ α} {y : Nat → Act σ β} {s s' t t' : Session σ} {r : Except Failure α}

namespace Settles

theorem of_eq (h : ∀ depth, x depth s = (r.mapError .failed, s')) : Settles x s r s' :=
  ⟨0, fun depth _ => h depth⟩

-- What is settled by a step that ends is settled with it.
theorem imp {r' : Except Failure β} (h : Settles x s r s')
    (hi : ∀ depth, x depth s = (r.mapError .failed, s') →
      y depth t = (r'.mapError .failed, t')) : Settles y t r' t' := by
  obtain ⟨least, h⟩ := h
  exact ⟨least, fun depth hd => hi depth (h depth hd)⟩

-- A step may have a level of calls to itself.
theorem succ {y : Nat → Act σ α} (h : Settles x s r s')
    (hs : ∀ depth, y (depth + 1) s = x depth s) : Settles y s r s' := by
  obtain ⟨least, h⟩ := h
  refine ⟨least + 1, fun depth hd => ?_⟩
  cases depth
  case zero       => cases hd
  case succ depth => exact (hs depth).trans (h depth <| Nat.le_of_succ_le_succ hd)

variable {k : Nat → α → Act σ β}

theorem bind_ok {a : α} {r' : Except Failure β} (h : Settles x s (.ok a) s')
    (hk : Settles (k · a) s' r' t') : Settles (fun n => x n >>= k n) s r' t' := by
  obtain ⟨least, h⟩ := h
  obtain ⟨least', hk⟩ := hk
  refine ⟨max least least', fun depth hd => ?_⟩
  have hx := h depth (Nat.le_trans (Nat.le_max_left ..) hd)
  exact (Step.bind_of_ok hx).trans (hk depth <| Nat.le_trans (Nat.le_max_right ..) hd)

theorem bind_error {f : Failure} (h : Settles x s (.error f) s') :
    Settles (fun n => x n >>= k n) s (.error f) s' :=
  h.imp fun _ hx => Step.bind_of_error hx

theorem attempt (h : Settles x s r s') : Settles (fun n => (x n).attempt) s (.ok r) s' :=
  h.imp fun depth hx => by
    rw [Act.attempt, hx]
    cases r <;> rfl

end Settles
end Act

namespace Container

variable (c : Container σ)

-- How code ends that does not ask the container for components, nor do the methods that it calls.
inductive Evaluates :
    {α : Type} → Action σ α → σ → Except Failure α → σ → Prop
  | result {α : Type} (a : α) (u : σ) : Evaluates (.result a) u (.ok a) u
  | fail {α : Type} (f : Failure) (u : σ) : Evaluates (α := α) (.fail f) u (.error f) u
  | read {α : Type} {next : σ → Action σ α} {u v : σ} {r : Except Failure α} :
    Evaluates (next u) u r v → Evaluates (.read next) u r v
  | write {α : Type} {next : Action σ α} {u u' v : σ} {r : Except Failure α} :
    Evaluates next u' r v → Evaluates (.write u' next) u r v
  | invoke {α : Type} {h : Handle} {caller : Option String} {method : String} {args : List Value}
    {next : Except Failure Value → Action σ α} {u v v' : σ} {a : Except Failure Value}
    {r : Except Failure α} : Evaluates (c.callCode .plain h caller method args) u a v →
      Evaluates (next a) v r v' → Evaluates (.invoke h caller method args next) u r v'

namespace Evaluates

variable {c} {u v : σ} {b : Action σ α} {r : Except Failure α}

-- Such code has its way with the state of the code of components and leaves all else alone.
theorem settles (hc : c.MadeBy .plain) (h : c.Evaluates b u r v) {s : Session σ}
    (hs : s.user = u) :
    Act.Settles (fun n => b.runPlain (c.services n)) s r { s with user := v } := by
  induction h generalizing s
  case result => exact .of_eq fun _ => hs ▸ rfl
  case fail   => exact .of_eq fun _ => hs ▸ rfl
  case read hi =>
    cases hs
    exact hi rfl
  case write hi => exact hi rfl
  case invoke h caller method args _ _ _ _ _ _ _ _ hi hi' =>
    have hs' := (hi hs).succ (y := fun n => (c.services n).invoke h caller method args)
      fun n => congrFun (c.invoke_eq_code (c.services n) .plain hc h caller method args) s
    exact hs'.attempt.bind_ok (hi' rfl)

end Evaluates
end Container
end Interpose
