import BackendBoilerplate.Lib.Prog
import BackendBoilerplate.Lib.Runs
import Mathlib.Logic.Function.Basic

/-!
Interleaved programs over one machine. A pool holds the shared state and the
calls that have begun, in the order in which they began; an event begins a
call or lets one call perform its next operation. Every schedule of events is a
list, so an interleaving is a run in the sense of `Runs`.
-/
namespace Async
variable {S : Signature} {ε : Type}

/-- One performed operation with the outside choice it met and its answer. -/
structure Done (M : Machine S ε) where
  op : S.Op
  choice : M.Choice
  res : Except ε (S.Res op)

structure Thread (M : Machine S ε) (Call α : Type) where
  call : Call
  hist : List (Done M)
  prog : Prog S ε α

structure Pool (M : Machine S ε) (Call α : Type) where
  state : M.State
  threads : List (Thread M Call α)

inductive Event (M : Machine S ε) (Call : Type) where
  | start (call : Call)
  | advance (tid : Nat) (choice : M.Choice)

namespace Prog
variable {α : Type}

/-- The operation that a program awaits next. -/
def nextOp : Prog S ε α → Option S.Op
  | .step op _ => some op
  | _ => none

def outcome : Prog S ε α → Option (Except ε α)
  | .ret a => some (.ok a)
  | .fail e => some (.error e)
  | .step _ _ => none

end Prog

variable {M : Machine S ε} {Call α : Type}

def Thread.begin (program : Call → Prog S ε α) (call : Call) : Thread M Call α :=
  { call, hist := [], prog := program call }

/-- The thread after its next operation was answered by `M`. -/
def Thread.fired (th : Thread M Call α) (tid : Nat) (op : S.Op)
    (next : Except ε (S.Res op) → Prog S ε α) (ch : M.Choice) (s : M.State) :
    Thread M Call α :=
  { call := th.call
    hist := th.hist ++ [⟨op, ch, (M.exec tid op ch s).1⟩]
    prog := next (M.exec tid op ch s).1 }

namespace Pool
variable (program : Call → Prog S ε α)

/-- The pool after a call has begun. -/
abbrev began (p : Pool M Call α) (call : Call) : Pool M Call α :=
  { p with threads := p.threads ++ [Thread.begin program call] }

/-- The pool after the call `th`, at number `tid`, has performed its next operation. -/
abbrev fired (p : Pool M Call α) (tid : Nat) (ch : M.Choice) (th : Thread M Call α) (op : S.Op)
    (next : Except ε (S.Res op) → Prog S ε α) : Pool M Call α :=
  { state := (M.exec tid op ch p.state).2
    threads := p.threads.set tid (th.fired tid op next ch p.state) }

def step (p : Pool M Call α) : Event M Call → Pool M Call α
  | .start call => p.began program call
  | .advance tid ch =>
      match p.threads[tid]? with
      | none => p
      | some th =>
          match th.prog with
          | .step op next => p.fired tid ch th op next
          | _ => p

abbrev run (p : Pool M Call α) (es : List (Event M Call)) : Pool M Call α :=
  Runs.run (step program) p es

/-- The operation that call number `tid` performs next. -/
def nextOp (p : Pool M Call α) (tid : Nat) : Option S.Op :=
  p.threads[tid]?.bind fun th => th.prog.nextOp

/-- How call number `tid` ended, once it has. -/
def outcome (p : Pool M Call α) (tid : Nat) : Option (Except ε α) :=
  p.threads[tid]?.bind fun th => th.prog.outcome

def call (p : Pool M Call α) (tid : Nat) : Option Call :=
  p.threads[tid]?.map Thread.call

theorem call_of_thread {p : Pool M Call α} {tid : Nat} {th : Thread M Call α}
    (hth : p.threads[tid]? = some th) : p.call tid = some th.call := by
  rw [call, hth, Option.map_some]

theorem outcome_of_thread {p : Pool M Call α} {tid : Nat} {th : Thread M Call α}
    (hth : p.threads[tid]? = some th) : p.outcome tid = th.prog.outcome := by
  rw [outcome, hth, Option.bind_some]

theorem nextOp_of_thread {p : Pool M Call α} {tid : Nat} {th : Thread M Call α} {op : S.Op}
    {next : Except ε (S.Res op) → Prog S ε α} (hth : p.threads[tid]? = some th)
    (hprog : th.prog = .step op next) : p.nextOp tid = some op := by
  rw [nextOp, hth, Option.bind_some, hprog, Prog.nextOp]

/-- What one event does: it begins a call, it is idle, or it performs the next
operation of a running call. -/
theorem step_cases (p : Pool M Call α) (e : Event M Call) :
    (∃ call, e = .start call ∧ p.step program e = p.began program call) ∨
    (∃ tid ch, e = .advance tid ch ∧ p.nextOp tid = none ∧ p.step program e = p) ∨
    (∃ tid ch th op next, e = .advance tid ch ∧ p.threads[tid]? = some th ∧
      th.prog = .step op next ∧ p.step program e = p.fired tid ch th op next) := by
  cases e with
  | start call => exact .inl ⟨call, rfl, rfl⟩
  | advance tid ch =>
      cases hth : p.threads[tid]? with
      | none => exact .inr (.inl ⟨tid, ch, rfl, by simp [nextOp, hth], by simp [step, hth]⟩)
      | some th =>
          cases hp : th.prog with
          | ret a =>
              exact .inr (.inl ⟨tid, ch, rfl, by simp [nextOp, hth, hp, Prog.nextOp],
                by simp [step, hth, hp]⟩)
          | fail err =>
              exact .inr (.inl ⟨tid, ch, rfl, by simp [nextOp, hth, hp, Prog.nextOp],
                by simp [step, hth, hp]⟩)
          | step op next =>
              exact .inr (.inr ⟨tid, ch, th, op, next, rfl, hth, hp, by simp [step, hth, hp]⟩)

variable {program}

/-- A call of the pool in which one more has begun. -/
theorem thread_began {p : Pool M Call α} {call : Call} {i : Nat} {th : Thread M Call α}
    (h : (p.began program call).threads[i]? = some th) :
    p.threads[i]? = some th ∨ p.threads.length ≤ i ∧ th = .begin program call := by
  by_cases hlt : i < p.threads.length
  · rw [List.getElem?_append_left hlt] at h
    exact .inl h
  · have hle : p.threads.length ≤ i := Nat.le_of_not_lt hlt
    rw [List.getElem?_append_right hle] at h
    exact .inr ⟨hle, List.mem_singleton.mp (List.mem_of_getElem? h)⟩

/-- A call of the pool in which one has performed an operation. -/
theorem thread_fired {p : Pool M Call α} {tid : Nat} {ch : M.Choice} {th : Thread M Call α}
    {op : S.Op} {next : Except ε (S.Res op) → Prog S ε α} (hth : p.threads[tid]? = some th)
    {i : Nat} {th' : Thread M Call α}
    (h : (p.fired tid ch th op next).threads[i]? = some th') :
    i = tid ∧ th' = th.fired tid op next ch p.state ∨ i ≠ tid ∧ p.threads[i]? = some th' := by
  by_cases hi : i = tid
  · subst hi
    rw [List.getElem?_set_self (List.getElem?_eq_some_iff.mp hth).1] at h
    exact .inl ⟨rfl, (Option.some.inj h).symm⟩
  · rw [List.getElem?_set_ne (Ne.symm hi)] at h
    exact .inr ⟨hi, h⟩

variable (program)

/-- The operation that a call performs next is what changes the shared state. -/
theorem state_of_nextOp {p : Pool M Call α} {tid : Nat} {op : S.Op}
    (hop : p.nextOp tid = some op) (ch : M.Choice) :
    (p.step program (.advance tid ch)).state = (M.exec tid op ch p.state).2 := by
  obtain ⟨th, hth, hnext⟩ := Option.bind_eq_some_iff.mp hop
  cases hprog : th.prog with
  | ret a => rw [hprog] at hnext; cases hnext
  | fail e => rw [hprog] at hnext; cases hnext
  | step op' next =>
      rw [hprog] at hnext
      obtain rfl := Option.some.inj hnext
      simp only [step, hth, hprog]

end Pool

/-- A summary of what a call has done so far: phases, with the phase in which a
call begins, the effect of each performed operation, and the operations that a
call may perform in a phase. -/
structure Protocol (M : Machine S ε) (Call : Type) where
  Phase : Type
  init : Call → Phase
  next : Phase → Done M → Phase
  may : Call → Phase → S.Op → Prop

variable (P : Protocol M Call)

/-- The phase that a call's own history puts it in. -/
def Thread.phase (th : Thread M Call α) : P.Phase := th.hist.foldl P.next (P.init th.call)

@[simp] theorem Thread.phase_fired (th : Thread M Call α) (tid : Nat) (op : S.Op)
    (next : Except ε (S.Res op) → Prog S ε α) (ch : M.Choice) (s : M.State) :
    (th.fired tid op next ch s).phase P =
      P.next (th.phase P) ⟨op, ch, (M.exec tid op ch s).1⟩ := by
  simp [Thread.phase, Thread.fired, List.foldl_append]

@[simp] theorem Thread.phase_begin (program : Call → Prog S ε α) (call : Call) :
    (Thread.begin program call : Thread M Call α).phase P = P.init call := rfl

/-- A program keeps to the protocol from a phase: every operation it can come to
is allowed there, and `post` holds of the phase and outcome in which it ends. -/
def Prog.Follows (call : Call) (post : P.Phase → Except ε α → Prop) :
    Prog S ε α → P.Phase → Prop
  | .ret a, l => post l (.ok a)
  | .fail e, l => post l (.error e)
  | .step op next, l =>
      P.may call l op ∧ ∀ ch r, (next r).Follows call post (P.next l ⟨op, ch, r⟩)

namespace Prog
variable {P} {call : Call} {β : Type} {post : P.Phase → Except ε α → Prop}

theorem follows_bind {mid : P.Phase → Except ε β → Prop} {p : Prog S ε β}
    {f : β → Prog S ε α} {l : P.Phase} (hp : p.Follows P call mid l)
    (ok : ∀ l a, mid l (.ok a) → (f a).Follows P call post l)
    (error : ∀ l e, mid l (.error e) → post l (.error e)) :
    (p.bind f).Follows P call post l := by
  induction p generalizing l with
  | ret a => exact ok l a hp
  | fail e => exact error l e hp
  | step op next ih => exact ⟨hp.1, fun ch r => ih r (hp.2 ch r)⟩

theorem follows_tryCatch {mid : P.Phase → Except ε α → Prop} {p : Prog S ε α}
    {handler : ε → Prog S ε α} {l : P.Phase} (hp : p.Follows P call mid l)
    (ok : ∀ l a, mid l (.ok a) → post l (.ok a))
    (error : ∀ l e, mid l (.error e) → (handler e).Follows P call post l) :
    (p.tryCatch handler).Follows P call post l := by
  induction p generalizing l with
  | ret a => exact ok l a hp
  | fail e => exact error l e hp
  | step op next ih => exact ⟨hp.1, fun ch r => ih r (hp.2 ch r)⟩

theorem follows_mono {post' : P.Phase → Except ε α → Prop} {p : Prog S ε α} {l : P.Phase}
    (hp : p.Follows P call post l) (h : ∀ l r, post l r → post' l r) :
    p.Follows P call post' l := by
  induction p generalizing l with
  | ret a => exact h l _ hp
  | fail e => exact h l _ hp
  | step op next ih => exact ⟨hp.1, fun ch r => ih r (hp.2 ch r)⟩

/-- Leaving out a last rewriting of the result. -/
theorem follows_of_bind_ret {p : Prog S ε β} {f : β → α} {l : P.Phase}
    (h : (p.bind fun b => ret (f b)).Follows P call post l) :
    p.Follows P call (fun l r => post l (r.map f)) l := by
  induction p generalizing l with
  | ret b => exact h
  | fail e => exact h
  | step op next ih => exact ⟨h.1, fun ch r => ih r (h.2 ch r)⟩

/-- A program that has ended satisfies the postcondition. -/
theorem post_of_ended {prog : Prog S ε α} {l : P.Phase} (h : prog.Follows P call post l)
    (ended : prog.nextOp = none) : ∃ r, post l r := by
  cases prog with
  | ret a => exact ⟨_, h⟩
  | fail e => exact ⟨_, h⟩
  | step op next => cases ended

/-- What every operation keeps, from a phase in which it holds. -/
theorem follows_of_stable {I : P.Phase → Prop} (may : ∀ l op, I l → P.may call l op)
    (keep : ∀ l d, I l → I (P.next l d)) (ends : ∀ l r, I l → post l r) (p : Prog S ε α)
    {l : P.Phase} (hl : I l) : p.Follows P call post l := by
  induction p generalizing l with
  | ret a => exact ends l _ hl
  | fail e => exact ends l _ hl
  | step op next ih => exact ⟨may l op hl, fun ch r => ih r (keep l _ hl)⟩

end Prog

/-! What holds of the calls of a view, one by one. -/

section
variable {Phase : Type} {v : Nat → Option (Call × Phase)} {Q : Call → Phase → Prop}
  {call : Call} {l l' : Phase} {i j : Nat}

/-- Call number `i` has begun, and `Q` holds of it and its phase. -/
def At (v : Nat → Option (Call × Phase)) (Q : Call → Phase → Prop) (i : Nat) : Prop :=
  ∃ call l, v i = some (call, l) ∧ Q call l

theorem at_of (hi : v i = some (call, l)) : At v Q i ↔ Q call l := by
  simp [At, hi]

theorem not_at_of_none (hi : v i = none) : ¬ At v Q i := by
  simp [At, hi]

theorem at_update :
    At (Function.update v i (some (call, l'))) Q j ↔ if j = i then Q call l' else At v Q j := by
  unfold At
  by_cases h : j = i
  · subst h; simp
  · simp [h]

/-- No two calls of the view satisfy `Q`. -/
def AtMostOne (v : Nat → Option (Call × Phase)) (Q : Call → Phase → Prop) : Prop :=
  ∀ i j, At v Q i → At v Q j → i = j

/-- A call may come to satisfy `Q` only when no other call does. -/
theorem AtMostOne.update (h : AtMostOne v Q)
    (enter : Q call l' → At v Q i ∨ ∀ j, j ≠ i → ¬ At v Q j) :
    AtMostOne (Function.update v i (some (call, l'))) Q := by
  have others {j : Nat} (hq : Q call l') (hj : At v Q j) : j = i := by
    cases enter hq with
    | inl hbefore => exact h j i hj hbefore
    | inr hnone =>
        by_contra hne
        exact hnone j hne hj
  intro a b ha hb
  rw [at_update] at ha hb
  split at ha <;> split at hb
  · next ha' hb' => exact ha'.trans hb'.symm
  · next ha' _ => exact ha'.trans (others ha hb).symm
  · next _ hb' => exact (others hb ha).trans hb'.symm
  · exact h a b ha hb

end
namespace Pool
variable (program : Call → Prog S ε α)

/-- The calls of a pool as a protocol sees them: who was called, in which phase it is. -/
def view (p : Pool M Call α) (tid : Nat) : Option (Call × P.Phase) :=
  p.threads[tid]?.map fun th => (th.call, th.phase P)

/-- Every call keeps to the protocol from where it stands. -/
def Follows (post : Call → P.Phase → Except ε α → Prop) (p : Pool M Call α) : Prop :=
  ∀ th ∈ p.threads, th.prog.Follows P th.call (post th.call) (th.phase P)

/-- No call of the pool satisfies `Q`. -/
def Nobody (p : Pool M Call α) (Q : Call → P.Phase → Prop) : Prop :=
  ∀ th ∈ p.threads, ¬ Q th.call (th.phase P)

instance (p : Pool M Call α) (Q : Call → P.Phase → Prop) [∀ call l, Decidable (Q call l)] :
    Decidable (p.Nobody P Q) :=
  inferInstanceAs (Decidable (∀ th ∈ p.threads, ¬ Q th.call (th.phase P)))

variable {P}

theorem Nobody.not_at {p : Pool M Call α} {Q : Call → P.Phase → Prop} (h : p.Nobody P Q)
    (i : Nat) : ¬ At (p.view P) Q i := by
  intro hi
  obtain ⟨call, l, hv, hq⟩ := hi
  obtain ⟨th, hth, hcl⟩ := Option.map_eq_some_iff.mp hv
  obtain ⟨rfl, rfl⟩ := Prod.mk.inj hcl
  exact h th (List.mem_of_getElem? hth) hq

theorem view_of_thread {p : Pool M Call α} {tid : Nat} {th : Thread M Call α}
    (hth : p.threads[tid]? = some th) : p.view P tid = some (th.call, th.phase P) := by
  rw [view, hth, Option.map_some]

theorem exists_at_of_not_nobody {p : Pool M Call α} {Q : Call → P.Phase → Prop}
    (h : ¬ p.Nobody P Q) : ∃ i, At (p.view P) Q i := by
  simp only [Nobody, not_forall, not_not] at h
  obtain ⟨th, hmem, hq⟩ := h
  obtain ⟨i, hi⟩ := List.mem_iff_getElem?.mp hmem
  exact ⟨i, th.call, th.phase P, view_of_thread hi, hq⟩

theorem view_start (p : Pool M Call α) (call : Call) :
    (p.began program call).view P =
      Function.update (p.view P) p.threads.length (some (call, P.init call)) := by
  funext i
  simp only [view, List.getElem?_append, Function.update_apply]
  split
  · next h => simp [Nat.ne_of_lt h]
  · next h =>
      by_cases hi : i = p.threads.length
      · subst hi; simp [Thread.begin, Thread.phase]
      · have : i - p.threads.length ≠ 0 := by omega
        simp [hi, this, List.getElem?_eq_none (show p.threads.length ≤ i by omega)]

theorem view_fired (p : Pool M Call α) {tid : Nat} {th : Thread M Call α} {op : S.Op}
    {next : Except ε (S.Res op) → Prog S ε α} {ch : M.Choice}
    (hth : p.threads[tid]? = some th) :
    (p.fired tid ch th op next).view P =
      Function.update (p.view P) tid
        (some (th.call, P.next (th.phase P) ⟨op, ch, (M.exec tid op ch p.state).1⟩)) := by
  have hlt : tid < p.threads.length := (List.getElem?_eq_some_iff.mp hth).1
  funext i
  by_cases hi : i = tid
  · subst hi
    simp only [view, Function.update_self, List.getElem?_set_self hlt, Option.map_some,
      Thread.phase_fired]
    rfl
  · rw [Function.update_of_ne hi]
    simp only [view]
    rw [List.getElem?_set_ne (Ne.symm hi)]

@[simp] theorem view_length (p : Pool M Call α) : p.view P p.threads.length = none := by
  simp [view]

theorem view_eq_none {p : Pool M Call α} {i : Nat} (h : p.threads.length ≤ i) :
    p.view P i = none := by
  simp [view, h]

variable {program} {post : Call → P.Phase → Except ε α → Prop}

/-- The protocol allows the operation that a call has come to. -/
theorem Follows.may {p : Pool M Call α} (hp : p.Follows P post) {tid : Nat}
    {th : Thread M Call α} {op : S.Op} {next : Except ε (S.Res op) → Prog S ε α}
    (hth : p.threads[tid]? = some th) (hprog : th.prog = .step op next) :
    P.may th.call (th.phase P) op := by
  have hfollows := hp th (List.mem_of_getElem? hth)
  rw [hprog] at hfollows
  exact hfollows.1

theorem call_step {p : Pool M Call α} {tid : Nat} {call : Call} (h : p.call tid = some call)
    (e : Event M Call) : (p.step program e).call tid = some call := by
  obtain ⟨th, hth, hcall⟩ := Option.map_eq_some_iff.mp h
  have hlt : tid < p.threads.length := (List.getElem?_eq_some_iff.mp hth).1
  rcases step_cases program p e with ⟨c, -, heq⟩ | ⟨i, ch, -, -, heq⟩ |
    ⟨i, ch, thi, op, next, -, hthi, -, heq⟩
  · rw [heq, Pool.call, List.getElem?_append_left hlt, hth, Option.map_some, hcall]
  · rw [heq]
    exact h
  · rw [heq, Pool.call]
    by_cases hi : i = tid
    · subst hi
      rw [List.getElem?_set_self hlt, Option.map_some]
      rw [hthi] at hth
      obtain rfl := Option.some.inj hth
      exact congrArg some hcall
    · rw [List.getElem?_set_ne hi, hth, Option.map_some, hcall]

/-- A call keeps its number and stays the call that it is. -/
theorem call_run {p : Pool M Call α} {tid : Nat} {call : Call} (h : p.call tid = some call)
    (es : List (Event M Call)) : (p.run program es).call tid = some call := by
  induction es generalizing p with
  | nil => exact h
  | cons e es ih => exact ih (call_step h e)

theorem call_start (program : Call → Prog S ε α) (p : Pool M Call α) (call : Call)
    (es : List (Event M Call)) :
    (p.run program (.start call :: es)).call p.threads.length = some call := by
  refine call_run (p := p.step program (.start call)) ?_ es
  simp [Pool.call, step, Thread.begin]

theorem follows_step
    (conforms : ∀ call, (program call).Follows P call (post call) (P.init call))
    {p : Pool M Call α} (hp : p.Follows P post) (e : Event M Call) :
    (p.step program e).Follows P post := by
  rcases step_cases program p e with ⟨call, -, heq⟩ | ⟨tid, ch, -, -, heq⟩ |
    ⟨tid, ch, th, op, next, -, hth, hprog, heq⟩
  · rw [heq]
    intro th hmem
    rcases List.mem_append.mp hmem with hold | hnew
    · exact hp th hold
    · rw [List.mem_singleton.mp hnew]
      exact conforms call
  · rw [heq]; exact hp
  · rw [heq]
    intro th' hmem
    rcases List.mem_or_eq_of_mem_set hmem with hold | rfl
    · exact hp th' hold
    · have hfollows := hp th (List.mem_of_getElem? hth)
      rw [hprog] at hfollows
      rw [Thread.phase_fired]
      exact hfollows.2 ch _

/-- A call that has ended stays as it is. -/
theorem mem_step_of_ended (program : Call → Prog S ε α) {p : Pool M Call α}
    {th : Thread M Call α} (hmem : th ∈ p.threads) (ended : th.prog.nextOp = none)
    (e : Event M Call) : th ∈ (p.step program e).threads := by
  rcases step_cases program p e with ⟨call, -, heq⟩ | ⟨tid, ch, -, -, heq⟩ |
    ⟨tid, ch, thi, op, next, -, hthi, hprog, heq⟩
  · rw [heq]
    exact List.mem_append_left _ hmem
  · rw [heq]
    exact hmem
  · rw [heq]
    obtain ⟨i, hth⟩ := List.mem_iff_getElem?.mp hmem
    have hne : tid ≠ i := by
      rintro rfl
      obtain rfl := Option.some.inj (hthi.symm.trans hth)
      rw [hprog] at ended
      cases ended
    exact List.mem_of_getElem? (i := i) (by rw [List.getElem?_set_ne hne, hth])

/-- The rule for interleavings: what beginning a call keeps, and what every
operation allowed by the protocol keeps, holds throughout every schedule. -/
theorem run_pools
    (conforms : ∀ call, (program call).Follows P call (post call) (P.init call))
    {I : Pool M Call α → Prop} {ok : Pool M Call α → Event M Call → Prop}
    (start : ∀ p call, I p → ok p (.start call) →
      I (p.began program call))
    (advance : ∀ p tid ch th op next, I p → ok p (.advance tid ch) →
      p.threads[tid]? = some th → th.prog = .step op next →
      P.may th.call (th.phase P) op → I (p.fired tid ch th op next))
    {p : Pool M Call α} (hp : p.Follows P post) (hinv : I p)
    {es : List (Event M Call)} (along : Runs.Along (step program) ok p es) :
    (p.run program es).Follows P post ∧ I (p.run program es) := by
  refine Runs.invariant (I := fun p => p.Follows P post ∧ I p) ⟨hp, hinv⟩ ?_ along
  intro p e ⟨hp, hinv⟩ hok
  refine ⟨follows_step conforms hp e, ?_⟩
  rcases step_cases program p e with ⟨call, rfl, heq⟩ | ⟨tid, ch, rfl, -, heq⟩ |
    ⟨tid, ch, th, op, next, rfl, hth, hprog, heq⟩
  · rw [heq]
    exact start p call hinv hok
  · rw [heq]
    exact hinv
  · rw [heq]
    exact advance p tid ch th op next hinv hok hth hprog (hp.may hth hprog)

/-- The same rule for an assertion about the shared state and the phases alone. -/
theorem run_invariant
    (conforms : ∀ call, (program call).Follows P call (post call) (P.init call))
    {Inv : M.State → (Nat → Option (Call × P.Phase)) → Prop}
    {ok : Pool M Call α → Event M Call → Prop}
    (start : ∀ p call, Inv p.state (p.view P) → ok p (.start call) →
      Inv p.state (Function.update (p.view P) p.threads.length (some (call, P.init call))))
    (advance : ∀ p tid ch call l op, Inv p.state (p.view P) → ok p (.advance tid ch) →
      p.view P tid = some (call, l) → p.nextOp tid = some op → P.may call l op →
      Inv (M.exec tid op ch p.state).2 (Function.update (p.view P) tid
        (some (call, P.next l ⟨op, ch, (M.exec tid op ch p.state).1⟩))))
    {p : Pool M Call α} (hp : p.Follows P post) (hinv : Inv p.state (p.view P))
    {es : List (Event M Call)} (along : Runs.Along (step program) ok p es) :
    (p.run program es).Follows P post ∧
      Inv (p.run program es).state ((p.run program es).view P) := by
  refine run_pools (I := fun p => Inv p.state (p.view P)) conforms ?_ ?_ hp hinv along
  · intro p call hinv hok
    rw [view_start]
    exact start p call hinv hok
  · intro p tid ch th op next hinv hok hth hprog hmay
    rw [view_fired p hth]
    exact advance p tid ch th.call (th.phase P) op hinv hok (view_of_thread hth)
      (nextOp_of_thread hth hprog) hmay

/-- A call that has ended satisfies the protocol's postcondition in its last phase. -/
theorem post_of_outcome {p : Pool M Call α} (hp : p.Follows P post) {tid : Nat} {call : Call}
    {l : P.Phase} {r : Except ε α} (hview : p.view P tid = some (call, l))
    (hout : p.outcome tid = some r) : post call l r := by
  obtain ⟨th, hth, hcl⟩ := Option.map_eq_some_iff.mp hview
  obtain ⟨rfl, rfl⟩ := Prod.mk.inj hcl
  have hfollows := hp th (List.mem_of_getElem? hth)
  rw [outcome_of_thread hth] at hout
  cases hprog : th.prog with
  | ret a =>
      rw [hprog] at hfollows hout
      obtain rfl := Option.some.inj hout
      exact hfollows
  | fail e =>
      rw [hprog] at hfollows hout
      obtain rfl := Option.some.inj hout
      exact hfollows
  | step op next =>
      rw [hprog] at hout
      cases hout

/-- The protocol allows what a call is about to do. -/
theorem may_of_nextOp {p : Pool M Call α} (hp : p.Follows P post) {tid : Nat} {op : S.Op}
    (hop : p.nextOp tid = some op) :
    ∃ call l, p.call tid = some call ∧ p.view P tid = some (call, l) ∧ P.may call l op := by
  obtain ⟨th, hth, hnext⟩ := Option.bind_eq_some_iff.mp hop
  refine ⟨th.call, th.phase P, call_of_thread hth, view_of_thread hth, ?_⟩
  cases hprog : th.prog with
  | ret a => rw [hprog] at hnext; cases hnext
  | fail e => rw [hprog] at hnext; cases hnext
  | step op' next =>
      rw [hprog] at hnext
      obtain rfl := Option.some.inj hnext
      exact hp.may hth hprog

/-! What the calls of a pool have to show, in the order in which they began. -/

section
variable {β : Type} {g : Thread M Call α → Option β} {p : Pool M Call α} {tid : Nat}
  {ch : M.Choice} {th : Thread M Call α} {op : S.Op} {next : Except ε (S.Res op) → Prog S ε α}

def collect (p : Pool M Call α) (g : Thread M Call α → Option β) : List β := p.threads.filterMap g

theorem collect_began {call : Call} (h : g (.begin program call) = none) :
    (p.began program call).collect g = p.collect g := by
  simp [collect, h]

/-- What calls are asked for, where they show nothing else, is shown, or still to be. -/
theorem collect_perm {asked : Thread M Call α → Option β}
    (h : ∀ th ∈ p.threads, ∀ b, g th = some b → asked th = some b) :
    (p.collect asked).Perm
      (p.collect g ++ p.collect fun th => (g th).elim (asked th) fun _ => none) := by
  unfold collect
  generalize p.threads = threads at h ⊢
  induction threads with
  | nil => exact List.Perm.refl _
  | cons th threads ih =>
      have hrest := ih fun th' hth' => h th' (List.mem_cons_of_mem _ hth')
      simp only [List.filterMap_cons]
      cases hg : g th with
      | some b =>
          rw [h th List.mem_cons_self b hg]
          exact hrest.cons b
      | none =>
          dsimp only [Option.elim]
          cases asked th with
          | none => exact hrest
          | some b => exact (hrest.cons b).trans List.perm_middle.symm

/-- The pool around one of its calls. -/
theorem split_fired (hth : p.threads[tid]? = some th) (ch : M.Choice) (op : S.Op)
    (next : Except ε (S.Res op) → Prog S ε α) :
    ∃ before after, p.threads = before ++ th :: after ∧
      (p.fired tid ch th op next).threads =
        before ++ th.fired tid op next ch p.state :: after := by
  obtain ⟨hlt, rfl⟩ := List.getElem?_eq_some_iff.mp hth
  obtain ⟨before, after, hbefore, -, hset⟩ := List.exists_of_set hlt
  exact ⟨before, after, hbefore, hset⟩

/-- A step that shows no more than before. -/
theorem collect_fired_same (hth : p.threads[tid]? = some th)
    (h : g (th.fired tid op next ch p.state) = g th) :
    (p.fired tid ch th op next).collect g = p.collect g := by
  obtain ⟨before, after, hp, hfired⟩ := split_fired hth ch op next
  rw [collect, hfired, collect, hp]
  simp only [List.filterMap_append, List.filterMap_cons, h]

/-- A step by which a call comes to show something. -/
theorem collect_fired_new (hth : p.threads[tid]? = some th) (before : g th = none) {b : β}
    (after : g (th.fired tid op next ch p.state) = some b) :
    ((p.fired tid ch th op next).collect g).Perm (b :: p.collect g) := by
  obtain ⟨front, back, hp, hfired⟩ := split_fired hth ch op next
  rw [collect, hfired, collect, hp]
  simp only [List.filterMap_append, List.filterMap_cons, before, after]
  exact List.perm_middle

end

/-! A call of a pool that nobody interleaves with. -/

/-- Call number `tid` performs its next `n` operations. -/
def advances (tid : Nat) (ω : Nat → M.Choice) (n : Nat) : List (Event M Call) :=
  (List.range n).map fun k => .advance tid (ω k)

theorem advances_succ (tid : Nat) (ω : Nat → M.Choice) (n : Nat) :
    (advances tid ω (n + 1) : List (Event M Call)) =
      .advance tid (ω 0) :: advances tid (fun k => ω (k + 1)) n := by
  rw [advances, List.range_succ_eq_map, List.map_cons, List.map_map]
  rfl

/-- In the pool it ends as it does alone, and what holds of its operations and their
choices holds along these events. -/
theorem run_advances (program : Call → Prog S ε α) {Q : S.Op → M.Choice → Prop} {tid : Nat}
    {ops : List S.Op} {r : Except ε α} {p : Pool M Call α} {th : Thread M Call α} {ω : Nat → M.Choice}
    (hth : p.threads[tid]? = some th) (ends : th.prog.Ends M tid ω p.state ops r)
    (each : ∀ k op, ops[k]? = some op → Q op (ω k)) :
    (p.run program (advances tid ω ops.length)).outcome tid = some r ∧
      Runs.Along (step program) (fun p e => ∀ i ch, e = .advance i ch →
        ∀ op, p.nextOp i = some op → Q op ch) p (advances tid ω ops.length) := by
  obtain ⟨call, hist, prog⟩ := th
  induction prog generalizing p hist ω ops with
  | ret a =>
      obtain ⟨rfl, rfl⟩ := ends
      exact ⟨outcome_of_thread hth, trivial⟩
  | fail e =>
      obtain ⟨rfl, rfl⟩ := ends
      exact ⟨outcome_of_thread hth, trivial⟩
  | step op next ih =>
      obtain ⟨hout, hops⟩ := ends
      rw [Prog.performed] at hops
      subst hops
      have hstep : p.step program (.advance tid (ω 0)) =
          p.fired tid (ω 0) ⟨call, hist, .step op next⟩ op next := by
        simp only [step, hth]
      have hlt : tid < p.threads.length := (List.getElem?_eq_some_iff.mp hth).1
      have hnext : (p.fired tid (ω 0) ⟨call, hist, .step op next⟩ op next).threads[tid]? =
          some ⟨call, _, next (M.exec tid op (ω 0) p.state).1⟩ := List.getElem?_set_self hlt
      obtain ⟨hend, halong⟩ := ih _ (fun k op' hop => each (k + 1) op' hop) _ hnext ⟨hout, rfl⟩
      rw [← hstep] at hend halong
      rw [List.length_cons, advances_succ]
      refine ⟨hend, ?_, halong⟩
      rintro i ch ⟨⟩ op' hop
      rw [nextOp_of_thread hth rfl] at hop
      exact Option.some.inj hop ▸ each 0 op rfl

end Pool
end Async
