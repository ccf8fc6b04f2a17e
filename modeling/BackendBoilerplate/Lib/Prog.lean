import Mathlib.Data.List.Basic

/-!
Asynchronous programs. A program returns, throws, or awaits one atomic
operation and goes on with what that operation answers, a value or an error.
The operations stay uninterpreted here, so the same program can be run alone or
interleaved with others, over any machine that answers its operations.
-/
namespace Async

/-- Atomic operations, each with the type of its answer. -/
structure Signature where
  Op : Type
  Res : Op → Type

inductive Prog (S : Signature) (ε α : Type) where
  | ret (value : α)
  | fail (error : ε)
  | step (op : S.Op) (next : Except ε (S.Res op) → Prog S ε α)

namespace Prog
variable {S : Signature} {ε α β : Type}

def ofExcept : Except ε α → Prog S ε α
  | .ok a => .ret a
  | .error e => .fail e

/-- Await one operation; its error is thrown. -/
def await (op : S.Op) : Prog S ε (S.Res op) := .step op ofExcept

def bind : Prog S ε α → (α → Prog S ε β) → Prog S ε β
  | .ret a, f => f a
  | .fail e, _ => .fail e
  | .step op next, f => .step op fun r => (next r).bind f

def tryCatch : Prog S ε α → (ε → Prog S ε α) → Prog S ε α
  | .ret a, _ => .ret a
  | .fail e, handler => handler e
  | .step op next, handler => .step op fun r => (next r).tryCatch handler

/-- Run a program to its end and keep the error it throws as a value. -/
def attempt : Prog S ε α → Prog S ε (Except ε α)
  | .ret a => .ret (.ok a)
  | .fail e => .ret (.error e)
  | .step op next => .step op fun r => (next r).attempt

/-- The finalizer runs on both exits; an error of its own replaces the outcome. -/
def tryFinally (body : Prog S ε α) (finalizer : Prog S ε Unit) : Prog S ε α :=
  body.attempt.bind fun outcome => finalizer.bind fun _ => ofExcept outcome

instance : Monad (Prog S ε) where
  pure := .ret
  bind := .bind

instance : MonadExceptOf ε (Prog S ε) where
  throw := .fail
  tryCatch := .tryCatch

@[simp] theorem pure_def (a : α) : (pure a : Prog S ε α) = .ret a := rfl

@[simp] theorem throw_def (e : ε) : (throw e : Prog S ε α) = .fail e := rfl

@[simp] theorem bind_def (p : Prog S ε α) (f : α → Prog S ε β) : p >>= f = p.bind f := rfl

@[simp] theorem ret_bind (a : α) (f : α → Prog S ε β) : (ret a : Prog S ε α).bind f = f a := rfl

@[simp] theorem fail_bind (e : ε) (f : α → Prog S ε β) :
    (fail e : Prog S ε α).bind f = fail e := rfl

@[simp] theorem step_bind (op : S.Op) (next : Except ε (S.Res op) → Prog S ε α)
    (f : α → Prog S ε β) : (step op next).bind f = step op fun r => (next r).bind f := rfl

theorem bind_assoc {γ : Type} (p : Prog S ε α) (f : α → Prog S ε β) (g : β → Prog S ε γ) :
    (p.bind f).bind g = p.bind fun a => (f a).bind g := by
  induction p with
  | ret a => rfl
  | fail e => rfl
  | step op next ih => exact congrArg (step op) (funext ih)

/-- Every operation that a program can come to satisfies `Q`. -/
def Performs (Q : S.Op → Prop) : Prog S ε α → Prop
  | .ret _ | .fail _ => True
  | .step op next => Q op ∧ ∀ r, (next r).Performs Q

theorem performs_bind {Q : S.Op → Prop} {p : Prog S ε α} {f : α → Prog S ε β}
    (hp : p.Performs Q) (hf : ∀ a, (f a).Performs Q) : (p.bind f).Performs Q := by
  induction p with
  | ret a => exact hf a
  | fail e => trivial
  | step op next ih => exact ⟨hp.1, fun r => ih r (hp.2 r)⟩

theorem performs_await {Q : S.Op → Prop} {op : S.Op} (h : Q op) :
    (await op : Prog S ε (S.Res op)).Performs Q := by
  refine ⟨h, fun r => ?_⟩
  cases r <;> trivial

theorem performs_attempt {Q : S.Op → Prop} {p : Prog S ε α} (hp : p.Performs Q) :
    p.attempt.Performs Q := by
  induction p with
  | ret a => trivial
  | fail e => trivial
  | step op next ih => exact ⟨hp.1, fun r => ih r (hp.2 r)⟩

theorem performs_tryCatch {Q : S.Op → Prop} {p : Prog S ε α} {handler : ε → Prog S ε α}
    (hp : p.Performs Q) (hh : ∀ e, (handler e).Performs Q) : (p.tryCatch handler).Performs Q := by
  induction p with
  | ret a => trivial
  | fail e => exact hh e
  | step op next ih => exact ⟨hp.1, fun r => ih r (hp.2 r)⟩

/-- The program can come to this operation. -/
def Reaches (target : S.Op) : Prog S ε α → Prop
  | .ret _ | .fail _ => False
  | .step op next => op = target ∨ ∃ r, (next r).Reaches target

theorem Performs.mono {Q Q' : S.Op → Prop} {p : Prog S ε α} (hp : p.Performs Q)
    (h : ∀ op, Q op → Q' op) : p.Performs Q' := by
  induction p with
  | ret a => trivial
  | fail e => trivial
  | step op next ih => exact ⟨h op hp.1, fun r => ih r (hp.2 r)⟩

theorem Performs.of_reaches {Q : S.Op → Prop} {op : S.Op} {p : Prog S ε α} (hp : p.Performs Q)
    (h : p.Reaches op) : Q op := by
  induction p with
  | ret a => exact h.elim
  | fail e => exact h.elim
  | step first next ih =>
      rcases h with rfl | ⟨r, hr⟩
      · exact hp.1
      · exact ih r (hp.2 r) hr

/-- A program that throws only errors of the kind `Q`, as long as its operations do. -/
def FailsOnly (Q : ε → Prop) : Prog S ε α → Prop
  | .ret _ => True
  | .fail e => Q e
  | .step _ next =>
      (∀ a, (next (.ok a)).FailsOnly Q) ∧ ∀ e, Q e → (next (.error e)).FailsOnly Q

theorem failsOnly_bind {Q : ε → Prop} {p : Prog S ε α} {f : α → Prog S ε β}
    (hp : p.FailsOnly Q) (hf : ∀ a, (f a).FailsOnly Q) : (p.bind f).FailsOnly Q := by
  induction p with
  | ret a => exact hf a
  | fail e => exact hp
  | step op next ih =>
      exact ⟨fun a => ih (.ok a) (hp.1 a), fun e he => ih (.error e) (hp.2 e he)⟩

theorem failsOnly_await {Q : ε → Prop} {op : S.Op} :
    (await op : Prog S ε (S.Res op)).FailsOnly Q := ⟨fun _ => trivial, fun _ he => he⟩

theorem FailsOnly.next {Q : ε → Prop} {op : S.Op} {next : Except ε (S.Res op) → Prog S ε α}
    (h : (step op next).FailsOnly Q) {r : Except ε (S.Res op)} (hr : ∀ e, r = .error e → Q e) :
    (next r).FailsOnly Q := by
  cases r with
  | ok a => exact h.1 a
  | error e => exact h.2 e (hr e rfl)

end Prog

/-- What answers the operations: `exec` gets the caller, the operation, and what
the outside world chooses at this step, and yields the answer and the next state. -/
structure Machine (S : Signature) (ε : Type) where
  State : Type
  Choice : Type
  exec : Nat → (op : S.Op) → Choice → State → Except ε (S.Res op) × State

/-- The same machine where the outside chooses once for each operation, not once for each
step. -/
@[reducible] def Machine.perOperation {S : Signature} {ε : Type} (M : Machine S ε) :
    Machine S ε where
  State := M.State
  Choice := S.Op → M.Choice
  exec caller op ch s := M.exec caller op (ch op) s

/-- The end of a program that ran alone: its outcome, the state it leaves, and
the choices it did not use. -/
structure Settled {S : Signature} {ε : Type} (M : Machine S ε) (α : Type) where
  outcome : Except ε α
  state : M.State
  left : Nat → M.Choice

namespace Prog
variable {S : Signature} {ε α β : Type} (M : Machine S ε) (caller : Nat)

/-- Run a program alone, from a state and the choices for its successive steps. -/
def run : Prog S ε α → (Nat → M.Choice) → M.State → Settled M α
  | .ret a, ω, s => ⟨.ok a, s, ω⟩
  | .fail e, ω, s => ⟨.error e, s, ω⟩
  | .step op next, ω, s =>
      (next (M.exec caller op (ω 0) s).1).run (fun n => ω (n + 1)) (M.exec caller op (ω 0) s).2

@[simp] theorem run_ret (a : α) (ω : Nat → M.Choice) (s : M.State) :
    (ret a : Prog S ε α).run M caller ω s = ⟨.ok a, s, ω⟩ := rfl

@[simp] theorem run_fail (e : ε) (ω : Nat → M.Choice) (s : M.State) :
    (fail e : Prog S ε α).run M caller ω s = ⟨.error e, s, ω⟩ := rfl

/-- The operations that the program performs when it runs alone, in order. -/
def performed : Prog S ε α → (Nat → M.Choice) → M.State → List S.Op
  | .ret _, _, _ | .fail _, _, _ => []
  | .step op next, ω, s =>
      op :: (next (M.exec caller op (ω 0) s).1).performed (fun n => ω (n + 1))
        (M.exec caller op (ω 0) s).2

theorem run_step (op : S.Op) (next : Except ε (S.Res op) → Prog S ε α)
    (ω : Nat → M.Choice) (s : M.State) :
    (step op next).run M caller ω s =
      (next (M.exec caller op (ω 0) s).1).run M caller (fun n => ω (n + 1))
        (M.exec caller op (ω 0) s).2 := rfl

/-- The choices that a program leaves are those after the ones that it used. -/
theorem run_left (p : Prog S ε α) (ω : Nat → M.Choice) (s : M.State) :
    ∃ used, (p.run M caller ω s).left = fun n => ω (n + used) := by
  induction p generalizing ω s with
  | ret a => exact ⟨0, rfl⟩
  | fail e => exact ⟨0, rfl⟩
  | step op next ih =>
      obtain ⟨used, hleft⟩ := ih (M.exec caller op (ω 0) s).1 (fun n => ω (n + 1)) _
      exact ⟨used + 1, hleft⟩

/-- One operation, once its answer is known. -/
theorem run_exec {op : S.Op} {next : Except ε (S.Res op) → Prog S ε α} {ω : Nat → M.Choice}
    {s s' : M.State} {r : Except ε (S.Res op)} (h : M.exec caller op (ω 0) s = (r, s')) :
    (step op next).run M caller ω s = (next r).run M caller (fun n => ω (n + 1)) s' := by
  rw [run_step, h]

theorem performed_exec {op : S.Op} {next : Except ε (S.Res op) → Prog S ε α} {ω : Nat → M.Choice}
    {s s' : M.State} {r : Except ε (S.Res op)} (h : M.exec caller op (ω 0) s = (r, s')) :
    (step op next).performed M caller ω s =
      op :: (next r).performed M caller (fun n => ω (n + 1)) s' := by
  rw [performed, h]

/-- How a program ends that runs alone, and what it performs until then. -/
structure Ends (p : Prog S ε α) (ω : Nat → M.Choice) (s : M.State) (ops : List S.Op)
    (outcome : Except ε α) : Prop where
  outcome : (p.run M caller ω s).outcome = outcome
  performed : p.performed M caller ω s = ops

theorem ends_ret (a : α) (ω : Nat → M.Choice) (s : M.State) :
    (ret a : Prog S ε α).Ends M caller ω s [] (.ok a) := ⟨rfl, rfl⟩

theorem ends_fail (e : ε) (ω : Nat → M.Choice) (s : M.State) :
    (fail e : Prog S ε α).Ends M caller ω s [] (.error e) := ⟨rfl, rfl⟩

variable {M caller} in
theorem Ends.step {op : S.Op} {next : Except ε (S.Res op) → Prog S ε α} {ω : Nat → M.Choice}
    {s s' : M.State} {r : Except ε (S.Res op)} {ops : List S.Op} {outcome : Except ε α}
    (h : M.exec caller op (ω 0) s = (r, s'))
    (rest : (next r).Ends M caller (fun n => ω (n + 1)) s' ops outcome) :
    (Prog.step op next).Ends M caller ω s (op :: ops) outcome := by
  refine ⟨?_, ?_⟩
  · rw [run_exec M caller h]
    exact rest.outcome
  · rw [performed_exec M caller h, rest.performed]

/-- Sequencing: the second program starts in the state, and with the choices,
that the first one leaves. -/
theorem run_bind (p : Prog S ε α) (f : α → Prog S ε β) (ω : Nat → M.Choice) (s : M.State) :
    (p.bind f).run M caller ω s =
      match (p.run M caller ω s).outcome with
      | .ok a => (f a).run M caller (p.run M caller ω s).left (p.run M caller ω s).state
      | .error e => ⟨.error e, (p.run M caller ω s).state, (p.run M caller ω s).left⟩ := by
  induction p generalizing ω s with
  | ret a => rfl
  | fail e => rfl
  | step op next ih => exact ih _ _ _

theorem run_bind_ok {p : Prog S ε α} {f : α → Prog S ε β} {ω ω' : Nat → M.Choice}
    {s s' : M.State} {a : α} (h : p.run M caller ω s = ⟨.ok a, s', ω'⟩) :
    (p.bind f).run M caller ω s = (f a).run M caller ω' s' := by
  rw [run_bind, h]

/-- A sequence that returns: its first part did, and then its second. -/
theorem run_bind_inv {p : Prog S ε α} {f : α → Prog S ε β} {ω : Nat → M.Choice} {s : M.State}
    {b : β} (h : ((p.bind f).run M caller ω s).outcome = .ok b) :
    ∃ a, (p.run M caller ω s).outcome = .ok a ∧
      ((f a).run M caller (p.run M caller ω s).left (p.run M caller ω s).state).outcome =
        .ok b := by
  rw [run_bind] at h
  cases hout : (p.run M caller ω s).outcome with
  | ok a => exact ⟨a, rfl, by rwa [hout] at h⟩
  | error e => rw [hout] at h; cases h

/-- An attempt ends where the program ends, with its outcome as a value. -/
theorem run_attempt (p : Prog S ε α) (ω : Nat → M.Choice) (s : M.State) :
    p.attempt.run M caller ω s =
      ⟨.ok (p.run M caller ω s).outcome, (p.run M caller ω s).state, (p.run M caller ω s).left⟩ := by
  induction p generalizing ω s with
  | ret a => rfl
  | fail e => rfl
  | step op next ih => exact ih _ _ _

/-- Rewriting the result of a program leaves its run as it is. -/
theorem run_bind_ret (p : Prog S ε α) (f : α → β) (ω : Nat → M.Choice) (s : M.State) :
    ((p.bind fun a => ret (f a)).run M caller ω s).outcome =
        (p.run M caller ω s).outcome.map f ∧
      ((p.bind fun a => ret (f a)).run M caller ω s).state = (p.run M caller ω s).state := by
  rw [run_bind]
  cases hout : (p.run M caller ω s).outcome <;> exact ⟨rfl, rfl⟩

/-- One awaited operation that is answered. -/
theorem run_await_ok {op : S.Op} {f : S.Res op → Prog S ε β} {ω : Nat → M.Choice} {s s' : M.State}
    {a : S.Res op} (h : M.exec caller op (ω 0) s = (.ok a, s')) :
    ((await op).bind f).run M caller ω s = (f a).run M caller (fun n => ω (n + 1)) s' := by
  rw [run_bind, await, run_step, h]
  rfl

/-- One awaited operation that fails. -/
theorem run_await_error {op : S.Op} {f : S.Res op → Prog S ε β} {ω : Nat → M.Choice}
    {s s' : M.State} {e : ε} (h : M.exec caller op (ω 0) s = (.error e, s')) :
    ((await op).bind f).run M caller ω s = ⟨.error e, s', fun n => ω (n + 1)⟩ := by
  rw [run_bind, await, run_step, h]
  rfl

/-- Every operation that the program performs when it runs alone satisfies `Q`. -/
def Meets (Q : S.Op → M.Choice → M.State → Prop) : Prog S ε α → (Nat → M.Choice) → M.State → Prop
  | .ret _, _, _ | .fail _, _, _ => True
  | .step op next, ω, s =>
      Q op (ω 0) s ∧ (next (M.exec caller op (ω 0) s).1).Meets Q (fun n => ω (n + 1))
        (M.exec caller op (ω 0) s).2

instance Meets.decidable (Q : S.Op → M.Choice → M.State → Prop)
    [∀ op ch s, Decidable (Q op ch s)] :
    ∀ (p : Prog S ε α) (ω : Nat → M.Choice) (s : M.State), Decidable (p.Meets M caller Q ω s)
  | .ret _, _, _ | .fail _, _, _ => .isTrue trivial
  | .step op next, ω, s =>
      have := Meets.decidable Q (next (M.exec caller op (ω 0) s).1) (fun n => ω (n + 1))
        (M.exec caller op (ω 0) s).2
      inferInstanceAs (Decidable (Q op (ω 0) s ∧ (next (M.exec caller op (ω 0) s).1).Meets M caller Q
        (fun n => ω (n + 1)) (M.exec caller op (ω 0) s).2))

theorem meets_of_forall {Q : S.Op → M.Choice → M.State → Prop} (h : ∀ op ch s, Q op ch s)
    (p : Prog S ε α) (ω : Nat → M.Choice) (s : M.State) : p.Meets M caller Q ω s := by
  induction p generalizing ω s with
  | ret a => trivial
  | fail e => trivial
  | step op next ih => exact ⟨h op (ω 0) s, ih _ _ _⟩

/-- A program runs alike from two states that its operations do not tell apart. -/
theorem lockstep {J : M.State → M.State → Prop} {A : S.Op → Prop}
    {Q : S.Op → M.Choice → M.State → Prop}
    (keep : ∀ op ch s t, A op → Q op ch t → J s t →
      (M.exec caller op ch s).1 = (M.exec caller op ch t).1 ∧
        J (M.exec caller op ch s).2 (M.exec caller op ch t).2)
    {p : Prog S ε α} (hp : p.Performs A) {ω : Nat → M.Choice} {s t : M.State}
    (hq : p.Meets M caller Q ω t) (h : J s t) :
    (p.run M caller ω s).outcome = (p.run M caller ω t).outcome ∧
      p.performed M caller ω s = p.performed M caller ω t ∧
      J (p.run M caller ω s).state (p.run M caller ω t).state := by
  induction p generalizing ω s t with
  | ret a => exact ⟨rfl, rfl, h⟩
  | fail e => exact ⟨rfl, rfl, h⟩
  | step op next ih =>
      obtain ⟨hanswer, hnext⟩ := keep op (ω 0) s t hp.1 hq.1 h
      obtain ⟨hout, hperf, hend⟩ := ih (M.exec caller op (ω 0) t).1 (hp.2 _) hq.2 hnext
      rw [run_step, run_step, performed, performed, hanswer]
      exact ⟨hout, congrArg (op :: ·) hperf, hend⟩

/-- What every operation of a program leaves as it was, its run does. -/
theorem run_performs {Q : S.Op → Prop} {β : Type} {view : M.State → β} {p : Prog S ε α}
    (hp : p.Performs Q)
    (keep : ∀ op, Q op → ∀ ch s, view (M.exec caller op ch s).2 = view s)
    (ω : Nat → M.Choice) (s : M.State) : view (p.run M caller ω s).state = view s := by
  induction p generalizing ω s with
  | ret a => rfl
  | fail e => rfl
  | step op next ih =>
      rw [run_step, ih _ (hp.2 _)]
      exact keep op hp.1 (ω 0) s

theorem run_tryCatch (p : Prog S ε α) (handler : ε → Prog S ε α)
    (ω : Nat → M.Choice) (s : M.State) :
    (p.tryCatch handler).run M caller ω s =
      match (p.run M caller ω s).outcome with
      | .ok a => ⟨.ok a, (p.run M caller ω s).state, (p.run M caller ω s).left⟩
      | .error e =>
          (handler e).run M caller (p.run M caller ω s).left (p.run M caller ω s).state := by
  induction p generalizing ω s with
  | ret a => rfl
  | fail e => rfl
  | step op next ih => exact ih _ _ _

end Prog

/-! Programs over the operations of two signatures. -/

abbrev Signature.sum (S T : Signature) : Signature := ⟨S.Op ⊕ T.Op, Sum.elim S.Res T.Res⟩

namespace Prog
variable {S T : Signature} {ε α : Type}

def inl : Prog S ε α → Prog (S.sum T) ε α
  | .ret a => .ret a
  | .fail e => .fail e
  | .step op next => .step (.inl op) fun r => (next r).inl

def inr : Prog T ε α → Prog (S.sum T) ε α
  | .ret a => .ret a
  | .fail e => .fail e
  | .step op next => .step (.inr op) fun r => (next r).inr

theorem performs_inl {Q : (S.sum T).Op → Prop} {p : Prog S ε α}
    (hp : p.Performs fun op => Q (.inl op)) : (p.inl : Prog (S.sum T) ε α).Performs Q := by
  induction p with
  | ret a => trivial
  | fail e => trivial
  | step op next ih => exact ⟨hp.1, fun r => ih r (hp.2 r)⟩

theorem performs_inr {Q : (S.sum T).Op → Prop} {p : Prog T ε α}
    (hp : p.Performs fun op => Q (.inr op)) : (p.inr : Prog (S.sum T) ε α).Performs Q := by
  induction p with
  | ret a => trivial
  | fail e => trivial
  | step op next ih => exact ⟨hp.1, fun r => ih r (hp.2 r)⟩

end Prog
end Async
