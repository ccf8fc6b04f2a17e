import BackendBoilerplate.Lib.Pool

/-!
What a program ensures as long as its operations answer as assumed: every
operation that it comes to is one of a kind, and what it returns satisfies a
postcondition. For a pool, the assumption is what an invariant of the shared
state gives, and the kind of operation is what keeps that invariant.
-/
namespace Async
variable {S : Signature} {ε α β : Type}

namespace Prog

/-- As long as every answer satisfies `A`, every operation satisfies `Q` and the
result satisfies `post`; nothing is said about what the program throws. -/
def Ensures (A : (op : S.Op) → S.Res op → Prop) (Q : S.Op → Prop) (post : α → Prop) :
    Prog S ε α → Prop
  | .ret a => post a
  | .fail _ => True
  | .step op next => Q op ∧ (∀ a, A op a → (next (.ok a)).Ensures A Q post) ∧
      ∀ e, (next (.error e)).Ensures A Q post

variable {A : (op : S.Op) → S.Res op → Prop} {Q : S.Op → Prop} {post : α → Prop}

/-- What a program does where nothing is asked of it. -/
theorem ensures_true (p : Prog S ε α) : p.Ensures A (fun _ => True) fun _ => True := by
  induction p with
  | ret a => trivial
  | fail e => trivial
  | step op next ih => exact ⟨trivial, fun a _ => ih (.ok a), fun e => ih (.error e)⟩

theorem ensures_bind {mid : β → Prop} {p : Prog S ε β} {f : β → Prog S ε α}
    (hp : p.Ensures A Q mid) (hf : ∀ b, mid b → (f b).Ensures A Q post) :
    (p.bind f).Ensures A Q post := by
  induction p with
  | ret b => exact hf b hp
  | fail e => trivial
  | step op next ih =>
      exact ⟨hp.1, fun a ha => ih (.ok a) (hp.2.1 a ha), fun e => ih (.error e) (hp.2.2 e)⟩

theorem ensures_tryCatch {p : Prog S ε α} {handler : ε → Prog S ε α}
    (hp : p.Ensures A Q post) (hh : ∀ e, (handler e).Ensures A Q post) :
    (p.tryCatch handler).Ensures A Q post := by
  induction p with
  | ret a => exact hp
  | fail e => exact hh e
  | step op next ih =>
      exact ⟨hp.1, fun a ha => ih (.ok a) (hp.2.1 a ha), fun e => ih (.error e) (hp.2.2 e)⟩

/-- Whatever the answers: only operations of the kind. -/
theorem Ensures.performs {p : Prog S ε α} (hp : p.Ensures (fun _ _ => True) Q post) :
    p.Performs Q := by
  induction p with
  | ret a => trivial
  | fail e => trivial
  | step op next ih =>
      refine ⟨hp.1, fun r => ?_⟩
      cases r with
      | ok a => exact ih _ (hp.2.1 a trivial)
      | error e => exact ih _ (hp.2.2 e)

/-- Only operations of the kind, whatever is assumed of the answers. -/
theorem Performs.ensures {p : Prog S ε α} (hp : p.Performs Q) :
    p.Ensures A Q fun _ => True := by
  induction p with
  | ret a => trivial
  | fail e => trivial
  | step op next ih =>
      exact ⟨hp.1, fun a _ => ih (.ok a) (hp.2 _), fun e => ih (.error e) (hp.2 _)⟩

theorem ensures_inl {T : Signature} {A : (op : (S.sum T).Op) → (S.sum T).Res op → Prop}
    {Q : (S.sum T).Op → Prop} {p : Prog S ε α}
    (hp : p.Ensures (fun op => A (.inl op)) (fun op => Q (.inl op)) post) :
    (p.inl : Prog (S.sum T) ε α).Ensures A Q post := by
  induction p with
  | ret a => exact hp
  | fail e => trivial
  | step op next ih =>
      exact ⟨hp.1, fun a ha => ih (.ok a) (hp.2.1 a ha), fun e => ih (.error e) (hp.2.2 e)⟩

/-- One awaited operation: its answer is as assumed. -/
theorem ensures_await {op : S.Op} (h : Q op) :
    (await op : Prog S ε (S.Res op)).Ensures A Q (A op) :=
  ⟨h, fun _ ha => ha, fun _ => trivial⟩

theorem ensures_mono {post' : α → Prop} {p : Prog S ε α} (hp : p.Ensures A Q post)
    (h : ∀ a, post a → post' a) : p.Ensures A Q post' := by
  induction p with
  | ret a => exact h a hp
  | fail e => trivial
  | step op next ih =>
      exact ⟨hp.1, fun a ha => ih (.ok a) (hp.2.1 a ha), fun e => ih (.error e) (hp.2.2 e)⟩

/-- Two postconditions under the same assumption on answers. -/
theorem ensures_and {post' : α → Prop} {p : Prog S ε α} (hp : p.Ensures A Q post)
    (hp' : p.Ensures A Q post') : p.Ensures A Q fun a => post a ∧ post' a := by
  induction p with
  | ret a => exact ⟨hp, hp'⟩
  | fail e => trivial
  | step op next ih =>
      exact ⟨hp.1, fun a ha => ih (.ok a) (hp.2.1 a ha) (hp'.2.1 a ha),
        fun e => ih (.error e) (hp.2.2 e) (hp'.2.2 e)⟩

end Prog

namespace Pool
variable {M : Machine S ε} {Call : Type} (n : Nat) (A : (op : S.Op) → S.Res op → Prop)
  (K : Call → S.Op → Prop) (Q : S.Op → Prop) (post : Call → α → Prop)

/-- The calls from number `n` on ensure their postconditions from where they stand, and
come only to operations of their own kinds. -/
def EnsuresEach (p : Pool M Call α) : Prop :=
  ∀ i th, n ≤ i → p.threads[i]? = some th → th.prog.Ensures A (K th.call) (post th.call)

/-- The calls from number `n` on ensure their postconditions from where they stand. -/
def EnsuresFrom (p : Pool M Call α) : Prop :=
  ∀ i th, n ≤ i → p.threads[i]? = some th → th.prog.Ensures A Q (post th.call)

variable {n A K Q post} {p : Pool M Call α}

theorem ensuresEach_length (h : p.threads.length ≤ n) : p.EnsuresEach n A K post := by
  intro i th hi hth
  rw [List.getElem?_eq_none (by omega)] at hth
  cases hth

/-- An event keeps what the calls ensure, if the answer in it is as assumed. -/
theorem EnsuresEach.step {program : Call → Prog S ε α}
    (programs : ∀ call, (program call).Ensures A (K call) (post call))
    (h : p.EnsuresEach n A K post) (e : Event M Call)
    (answers : ∀ tid ch op a, e = .advance tid ch → n ≤ tid → p.nextOp tid = some op →
      (M.exec tid op ch p.state).1 = .ok a → A op a) :
    (p.step program e).EnsuresEach n A K post := by
  intro i th' hi hth'
  rcases step_cases program p e with ⟨call, -, heq⟩ | ⟨tid, ch, -, -, heq⟩ |
    ⟨tid, ch, th, op, next, rfl, hth, hprog, heq⟩
  · rw [heq] at hth'
    rcases thread_began hth' with hold | ⟨-, rfl⟩
    · exact h i th' hi hold
    · exact programs call
  · rw [heq] at hth'
    exact h i th' hi hth'
  · rw [heq] at hth'
    rcases thread_fired hth hth' with ⟨rfl, rfl⟩ | ⟨-, hold⟩
    · have hstep := h i th hi hth
      rw [hprog] at hstep
      change (next (M.exec i op ch p.state).1).Ensures A (K th.call) (post th.call)
      cases hr : (M.exec i op ch p.state).1 with
      | ok a => exact hstep.2.1 a (answers i ch op a rfl hi (nextOp_of_thread hth hprog) hr)
      | error err => exact hstep.2.2 err
    · exact h i th' hi hold

/-- What a call does next is of a kind that is its own. -/
theorem EnsuresEach.thread (h : p.EnsuresEach n A K post) {i : Nat} (hi : n ≤ i)
    {th : Thread M Call α} (hth : p.threads[i]? = some th) {op : S.Op}
    {next : Except ε (S.Res op) → Prog S ε α} (hprog : th.prog = .step op next) :
    K th.call op := by
  have hstep := h i th hi hth
  rw [hprog] at hstep
  exact hstep.1

/-- A call that has returned satisfies its postcondition. -/
theorem EnsuresEach.outcome (h : p.EnsuresEach n A K post) {i : Nat} (hi : n ≤ i) {call : Call}
    (hcall : p.call i = some call) {a : α} (hout : p.outcome i = some (.ok a)) : post call a := by
  obtain ⟨th, hth, hret⟩ := Option.bind_eq_some_iff.mp hout
  obtain rfl := Option.some.inj ((call_of_thread hth).symm.trans hcall)
  have hprog := h i th hi hth
  cases hp : th.prog with
  | ret b =>
      rw [hp] at hret hprog
      obtain rfl := Except.ok.inj (Option.some.inj hret)
      exact hprog
  | fail e => rw [hp] at hret; cases hret
  | step op next => rw [hp] at hret; cases hret

theorem ensuresFrom_length (h : p.threads.length ≤ n) : p.EnsuresFrom n A Q post :=
  ensuresEach_length (K := fun _ => Q) h

theorem EnsuresFrom.step {program : Call → Prog S ε α}
    (programs : ∀ call, (program call).Ensures A Q (post call)) (h : p.EnsuresFrom n A Q post)
    (e : Event M Call)
    (answers : ∀ tid ch op a, e = .advance tid ch → n ≤ tid → p.nextOp tid = some op →
      (M.exec tid op ch p.state).1 = .ok a → A op a) :
    (p.step program e).EnsuresFrom n A Q post :=
  EnsuresEach.step (K := fun _ => Q) programs h e answers

/-- What a call does next is of the kind that it ensures. -/
theorem EnsuresFrom.nextOp (h : p.EnsuresFrom n A Q post) {i : Nat} (hi : n ≤ i) {op : S.Op}
    (hop : p.nextOp i = some op) : Q op := by
  obtain ⟨th, hth, hnext⟩ := Option.bind_eq_some_iff.mp hop
  cases hp : th.prog with
  | ret a => rw [hp] at hnext; cases hnext
  | fail e => rw [hp] at hnext; cases hnext
  | step op' next =>
      rw [hp] at hnext
      obtain rfl := Option.some.inj hnext
      exact EnsuresEach.thread (K := fun _ => Q) h hi hth hp

theorem EnsuresFrom.outcome (h : p.EnsuresFrom n A Q post) {i : Nat} (hi : n ≤ i) {call : Call}
    (hcall : p.call i = some call) {a : α} (hout : p.outcome i = some (.ok a)) : post call a :=
  EnsuresEach.outcome (K := fun _ => Q) h hi hcall hout

end Pool
end Async
